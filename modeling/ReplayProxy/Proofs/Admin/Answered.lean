import ReplayProxy.Admin
import ReplayProxy.Proofs.Engine.Actions

/-!
# How a request to the administration can end

A request to the administration passes many checks: the path and the method, the length of the
body and its content type, its JSON, and then what the handler asks for. Only behind all of them
is anything written. The one handler that writes twice, the change of the state, looks at both
parts before it writes the first (`Admin.changeState_of_acceptable`,
`Admin.changeState_of_not_acceptable`).

Main statement:

* `Admin.answer_answered`: what can come of a request is one of seven things
  (`Admin.Answered`), with one constructor for each. All else about single requests is read off
  them.
-/

namespace ReplayProxy

theorem Resource.ofPath?_eq_some_iff {p : String} {resource : Resource} :
    ofPath? p = some resource ↔ p = resource.path := by
  constructor
  · intro h
    have hpath := List.find?_some h
    simpa using (beq_iff_eq.1 hpath).symm
  · rintro rfl
    -- no two resources have one path
    cases resource <;> decide +kernel

namespace Admin

open Json (Value)

/-! ### Changes of the state -/

/-- The change can be made: its mode is one that can be active, and its destination is a
pattern. -/
structure Acceptable (e : Engine) (c : StateChange) : Prop where
  mode : ∀ name ∈ c.mode, ∃ m, Mode.parse name = .ok m ∧
    (m.requiresTransform = true → e.transform ≠ none)
  destination : ∀ text ∈ c.destination, ∃ pattern, Regex.parse text = .ok pattern

/-- The change has been made: what is there is set, and all else is as it was. -/
structure Changed (e : Engine) (c : StateChange) (e' : Engine) : Prop where
  mode : match c.mode with
    | none => e'.mode = e.mode
    | some name => Mode.parse name = .ok e'.mode
  destination : match c.destination with
    | none => e'.destination = e.destination ∧ e'.pattern = e.pattern
    | some text => e'.destination = text ∧ Regex.parse text = .ok e'.pattern
  frame : e' = { e with mode := e'.mode, destination := e'.destination, pattern := e'.pattern }

theorem modeOf_of_acceptable {e : Engine} {c : StateChange} (h : Acceptable e c) :
    ∃ mode, modeOf e c = .ok mode ∧
      (∀ m ∈ mode, Engine.checkMode e.transform m = .ok ()) ∧
        match c.mode with
        | none => mode = none
        | some name => ∃ m, mode = some m ∧ Mode.parse name = .ok m := by
  unfold modeOf
  cases hmode : c.mode with
  | none => exact ⟨none, rfl, by simp, rfl⟩
  | some name =>
    obtain ⟨m, hparse, htransform⟩ := h.mode name hmode
    -- a mode that needs a transform is accepted only with one
    have hcan : (m.requiresTransform && e.transform.isNone) = false := by
      cases hrequires : m.requiresTransform with
      | false => rfl
      | true => simpa using Option.isSome_iff_ne_none.2 (htransform hrequires)
    refine ⟨some m, ?_, ?_, m, rfl, hparse⟩
    · simp [hparse, hcan]
    · intro m' hm'
      obtain rfl : m = m' := by simpa using hm'
      simp [Engine.checkMode, hcan]

/-- **A change that can be made is made.** The mode was looked at before the destination is set,
so setting it cannot fail any more. -/
theorem changeState_of_acceptable {e : Engine} {c : StateChange} (h : Acceptable e c) :
    ∃ e', changeState e c = .done 200 (stateValue e') e' ∧ Changed e c e' := by
  obtain ⟨mode, hmodeOf, hcheck, hmode⟩ := modeOf_of_acceptable h
  -- with the destination its pattern changes, and nothing else
  obtain ⟨e₁, hset, hdestination, hframe⟩ : ∃ e₁,
      c.destination.elim (.ok e) e.setDestination = .ok e₁ ∧
        (match c.destination with
          | none => e₁.destination = e.destination ∧ e₁.pattern = e.pattern
          | some text => e₁.destination = text ∧ Regex.parse text = .ok e₁.pattern) ∧
        e₁ = { e with destination := e₁.destination, pattern := e₁.pattern } := by
    cases hdestination : c.destination with
    | none => exact ⟨e, rfl, ⟨rfl, rfl⟩, rfl⟩
    | some text =>
      obtain ⟨pattern, hpattern⟩ := h.destination text hdestination
      refine ⟨{ e with destination := text, pattern }, ?_, ⟨rfl, hpattern⟩, rfl⟩
      simp [Engine.setDestination, Engine.readPattern, hpattern]
  have htransform : e₁.transform = e.transform := by rw [hframe]
  refine ⟨{ e₁ with mode := mode.getD e₁.mode }, ?_, ?_, ?_, ?_⟩
  · rw [changeState, hmodeOf]
    simp only [hset, ofEngine]
    -- the mode was checked against the transform, which the destination leaves alone
    cases mode with
    | none => rfl
    | some m => simp [Engine.setMode, htransform, hcheck m rfl]
  · cases hname : c.mode with
    | none =>
      simp only [hname] at hmode
      rw [hmode, hframe]
      rfl
    | some name =>
      simp only [hname] at hmode
      obtain ⟨m, rfl, hparse⟩ := hmode
      exact hparse
  · exact hdestination
  · rw [hframe]

theorem modeOf_eq_ok {e : Engine} {c : StateChange} {mode : Option Mode}
    (h : modeOf e c = .ok mode) : ∀ name ∈ c.mode, ∃ m, Mode.parse name = .ok m ∧
      (m.requiresTransform = true → e.transform ≠ none) := by
  intro name hname
  have hmode : c.mode = some name := hname
  unfold modeOf at h
  simp only [hmode] at h
  cases hparse : Mode.parse name with
  | error err => simp [hparse] at h
  | ok m =>
    refine ⟨m, rfl, fun hrequires hnone => ?_⟩
    simp [hparse, hrequires, hnone] at h

/-- A mode is refused with the status 400. -/
theorem modeOf_eq_error {e : Engine} {c : StateChange} {err : AdminError}
    (h : modeOf e c = .error err) : ∃ reason, err = .badRequest reason := by
  unfold modeOf at h
  cases hmode : c.mode with
  | none => simp [hmode] at h
  | some name =>
    simp only [hmode] at h
    cases hparse : Mode.parse name with
    | error reason => exact ⟨_, by simpa [hparse] using h.symm⟩
    | ok m =>
      simp only [hparse] at h
      split at h
      · exact ⟨_, by simpa using h.symm⟩
      · cases h

/-- **A change that cannot be made as a whole is not made at all.** -/
theorem changeState_of_not_acceptable {e : Engine} {c : StateChange} (h : ¬Acceptable e c) :
    ∃ reason, changeState e c = .refused (.badRequest reason) e := by
  unfold changeState
  cases hmodeOf : modeOf e c with
  | error err =>
    obtain ⟨reason, rfl⟩ := modeOf_eq_error hmodeOf
    exact ⟨reason, rfl⟩
  | ok mode =>
    -- the mode is fine, so the destination is not, and it comes before the first change
    cases hdestination : c.destination with
    | none => exact absurd ⟨modeOf_eq_ok hmodeOf, by simp [hdestination]⟩ h
    | some text =>
      cases hparse : Regex.parse text with
      | ok pattern =>
        refine absurd ⟨modeOf_eq_ok hmodeOf, fun text' htext' => ?_⟩ h
        obtain rfl : text = text' := by simpa [hdestination] using htext'
        exact ⟨pattern, hparse⟩
      | error err =>
        refine ⟨(ProxyError.pattern err).message, ?_⟩
        simp [Engine.setDestination, Engine.readPattern, hparse, ofEngine, AdminError.ofProxyError]

/-! ### All ways to end -/

/-- How a request can end: the reply and the engine after it. -/
inductive Answered (e : Engine) (r : ClientRequest) : Reply → Engine → Prop
  | looked {reply : Reply} (hmethod : r.method = "GET" ∨ r.method = "HEAD" ∨ r.method = "OPTIONS") :
    Answered e r reply e
  | failed {reply : Reply} (hstatus : 400 ≤ reply.status) : Answered e r reply e
  | imported {reply : Reply} (hmethod : r.method = "POST") (hpath : r.uri.path = "/api/records")
    (hstatus : reply.status = 200) (a : Archive) :
    Answered e r reply
      { e with requests := (Engine.imported a).foldl Change.apply e.requests }
  | recordsDeleted {reply : Reply} (hmethod : r.method = "DELETE")
    (hpath : r.uri.path = "/api/records") (hstatus : reply.status = 200) :
    Answered e r reply
      { e with requests := { e.requests with backing := e.requests.backing.clear } }
  | stateChanged {reply : Reply} {e' : Engine} {body : Bytes} {c : StateChange}
    (hmethod : r.method = "POST") (hpath : r.uri.path = "/api/state")
    (hstatus : reply.status = 200) (hbody : r.body = .ok body)
    (hread : Json.decode StateChange.ofTree body = .ok c) (hchanged : Changed e c e')
    (hreply : reply.body = (stateValue e').bytes) : Answered e r reply e'
  | metadataStored {reply : Reply} {body : Bytes} {m : MetadataEntry} (hmethod : r.method = "PUT")
    (hpath : r.uri.path = "/api/metadata") (hstatus : reply.status = 201)
    (hbody : r.body = .ok body) (hread : Json.decode MetadataEntry.ofTree body = .ok m) :
    Answered e r reply
      { e with metadata := { e.metadata with
        backing := e.metadata.backing.set (Bytes.ofText m.key) (Bytes.ofText m.value) } }
  | metadataDeleted {reply : Reply} (hmethod : r.method = "DELETE")
    (hpath : r.uri.path = "/api/metadata") (hstatus : reply.status = 200) :
    Answered e r reply
      { e with metadata := { e.metadata with backing := e.metadata.backing.clear } }

/-- A failure has neither of the two statuses with which a request succeeds. -/
theorem status_ne_of_failed {status : UInt16} (h : 400 ≤ status) : status ≠ 200 ∧ status ≠ 201 := by
  constructor <;> rintro rfl <;> revert h <;> decide

/-- An outcome ends a request. -/
def Ends (e : Engine) (r : ClientRequest) (outcome : Outcome) : Prop :=
  Answered e r (conclude e outcome).1 (conclude e outcome).2

section Ends

variable {e : Engine} {r : ClientRequest}

theorem le_status_error (err : AdminError) : 400 ≤ err.status := by
  cases err <;> simp only [AdminError.status] <;> decide

theorem ends_refused (err : AdminError) : Ends e r (.refused err e) :=
  .failed (le_status_error err)

theorem ends_rejected {status : UInt16} (h : 400 ≤ status) (text : String) :
    Ends e r (.rejected status text) := .failed h

theorem ends_ofEngine {result : Except ProxyError α} {next : α → Outcome}
    (h : ∀ a, result = .ok a → Ends e r (next a)) : Ends e r (ofEngine e result next) := by
  cases hresult : result with
  | error err => exact ends_refused _
  | ok a => exact h a hresult

theorem ends_bodyOf {next : Bytes → Outcome}
    (h : ∀ body, r.body = .ok body → Ends e r (next body)) :
    Ends e r (bodyOf r next) := by
  unfold bodyOf
  cases hbody : r.body with
  | error reason => exact ends_rejected (by decide) _
  | ok body =>
    -- a body that is too long is refused before it is read as JSON
    by_cases hlength : body.length > bodyLimit
    · simp only [if_pos hlength]
      exact ends_rejected (by decide) _
    · simp only [if_neg hlength]
      exact h body hbody

theorem ends_jsonOf {read : Json.Tree → Except Json.Fault α} {next : α → Outcome}
    (h : ∀ body a, r.body = .ok body → Json.decode read body = .ok a → Ends e r (next a)) :
    Ends e r (jsonOf r read next) := by
  unfold jsonOf
  by_cases hjson : announcesJson r = true
  · simp only [hjson]
    refine ends_bodyOf fun body hbody => ?_
    cases hread : Json.decode read body with
    | error fault => cases fault <;> exact ends_rejected (by decide) _
    | ok a => exact h body a hbody hread
  · simp only [hjson]
    exact ends_rejected (by decide) _

/-- What is shown leaves the engine, also when it cannot be shown. -/
theorem conclude_display (e : Engine) (resource : Resource) :
    (conclude e (display e resource)).2 = e := by
  -- only what is read from a cache can fail to be shown
  cases resource with
  | records => cases hresult : e.records <;> simp [display, ofEngine, hresult, conclude]
  | count => cases hresult : e.recordsCount <;> simp [display, ofEngine, hresult, conclude]
  | stats => cases hresult : e.recordsCount <;> simp [display, ofEngine, hresult, conclude]
  | metadata => cases hresult : e.metadataEntries <;> simp [display, ofEngine, hresult, conclude]
  | state => rfl
  | health => rfl

theorem ends_display (hmethod : r.method = "GET" ∨ r.method = "HEAD") (resource : Resource) :
    Ends e r (display e resource) := by
  rw [Ends, conclude_display]
  exact .looked (hmethod.elim .inl fun h => .inr (.inl h))

theorem ends_importRecords (hmethod : r.method = "POST") (hpath : r.uri.path = "/api/records") :
    Ends e r (importRecords e r) := by
  refine ends_bodyOf fun body hbody => ?_
  cases hparse : Archive.parse body with
  | error fault => exact ends_refused _
  | ok a =>
    refine ends_ofEngine fun result himport => ?_
    obtain ⟨n, e'⟩ := result
    obtain rfl := Engine.importArchive_eq_ok himport
    exact .imported hmethod hpath rfl a

theorem body_replyWith (status : UInt16) (v : Value) : (replyWith status v).body = v.bytes := rfl

theorem ends_changeState {body : Bytes} {c : StateChange} (hmethod : r.method = "POST")
    (hpath : r.uri.path = "/api/state") (hbody : r.body = .ok body)
    (hread : Json.decode StateChange.ofTree body = .ok c) : Ends e r (changeState e c) := by
  by_cases hacceptable : Acceptable e c
  · obtain ⟨e', hchange, hchanged⟩ := changeState_of_acceptable hacceptable
    rw [hchange]
    exact .stateChanged hmethod hpath rfl hbody hread hchanged (body_replyWith 200 (stateValue e'))
  · obtain ⟨reason, hchange⟩ := changeState_of_not_acceptable hacceptable
    rw [hchange]
    exact ends_refused _

theorem ends_storeMetadata {body : Bytes} {m : MetadataEntry} (hmethod : r.method = "PUT")
    (hpath : r.uri.path = "/api/metadata") (hbody : r.body = .ok body)
    (hread : Json.decode MetadataEntry.ofTree body = .ok m) : Ends e r (storeMetadata e m) := by
  unfold storeMetadata
  split
  · exact ends_refused _
  · refine ends_ofEngine fun e' hset => ?_
    obtain ⟨-, -, rfl⟩ := Engine.setMetadata_eq_ok_iff.1 hset
    exact .metadataStored hmethod hpath rfl hbody hread

theorem ends_deleteRecords (hmethod : r.method = "DELETE") (hpath : r.uri.path = "/api/records")
    (s : String) :
    Ends e r (ofEngine e e.deleteRecords fun e => .done 200 (message s) e) := by
  refine ends_ofEngine fun e' hdelete => ?_
  obtain ⟨-, rfl⟩ := Engine.deleteRecords_eq_ok_iff.1 hdelete
  exact .recordsDeleted hmethod hpath rfl

theorem ends_deleteMetadata (hmethod : r.method = "DELETE") (hpath : r.uri.path = "/api/metadata")
    (s : String) :
    Ends e r (ofEngine e e.deleteMetadata fun e => .done 200 (message s) e) := by
  refine ends_ofEngine fun e' hdelete => ?_
  obtain ⟨-, rfl⟩ := Engine.deleteMetadata_eq_ok_iff.1 hdelete
  exact .metadataDeleted hmethod hpath rfl

theorem ends_perform {resource : Resource} {outcome : Outcome} (hpath : r.uri.path = resource.path)
    (h : perform e resource r = some outcome) : Ends e r outcome := by
  unfold perform at h
  -- one handler for each method that a resource knows, and looking is one for all of them
  split at h
  · next hmethod =>
    obtain rfl := Option.some.inj h
    exact ends_display (.inl hmethod) _
  · next hmethod =>
    obtain rfl := Option.some.inj h
    exact ends_display (.inr hmethod) _
  · next hmethod =>
    obtain rfl := Option.some.inj h
    exact ends_importRecords hmethod hpath
  · next hmethod =>
    obtain rfl := Option.some.inj h
    exact ends_deleteRecords hmethod hpath _
  · next hmethod =>
    obtain rfl := Option.some.inj h
    exact ends_jsonOf fun body c hbody hread => ends_changeState hmethod hpath hbody hread
  · next hmethod =>
    obtain rfl := Option.some.inj h
    exact ends_jsonOf fun body m hbody hread => ends_storeMetadata hmethod hpath hbody hread
  · next hmethod =>
    obtain rfl := Option.some.inj h
    exact ends_deleteMetadata hmethod hpath _
  · cases h

end Ends

/-- What is carried out is answered as it ends; only a `HEAD` drops the body. -/
theorem answer_of_perform {e : Engine} {r : ClientRequest} {resource : Resource} {outcome : Outcome}
    (hoptions : r.method ≠ "OPTIONS") (hpath : r.uri.path = resource.path)
    (hperform : perform e resource r = some outcome) :
    answer e r =
      if r.method = "HEAD" then ({ (conclude e outcome).1 with body := [] }, (conclude e outcome).2)
      else conclude e outcome := by
  unfold answer
  simp only [if_neg hoptions, Resource.ofPath?_eq_some_iff.2 hpath, hperform]

/-- **Every request ends in one of these ways.** -/
theorem answer_answered (e : Engine) (r : ClientRequest) :
    Answered e r (answer e r).1 (answer e r).2 := by
  by_cases hoptions : r.method = "OPTIONS"
  · simp only [answer, if_pos hoptions]
    exact .looked (.inr (.inr hoptions))
  · cases hresource : Resource.ofPath? r.uri.path with
    | none =>
      simp only [answer, if_neg hoptions, hresource]
      have hstatus : (400 : UInt16) ≤ 404 := by decide
      exact .failed hstatus
    | some resource =>
      -- each method of a resource has a handler or is refused
      have hpath := Resource.ofPath?_eq_some_iff.1 hresource
      cases hperform : perform e resource r with
      | none =>
        simp only [answer, if_neg hoptions, hresource, hperform]
        have hstatus : (400 : UInt16) ≤ 405 := by decide
        exact .failed hstatus
      | some outcome =>
        rw [answer_of_perform hoptions hpath hperform]
        by_cases hhead : r.method = "HEAD"
        · -- the body is dropped, but nothing was changed anyway
          have hdisplay : perform e resource r = some (display e resource) := by
            simp [perform, hhead]
          obtain rfl := Option.some.inj (hperform.symm.trans hdisplay)
          rw [if_pos hhead, conclude_display]
          exact .looked (.inr (.inl hhead))
        · rw [if_neg hhead]
          exact ends_perform hpath hperform

end Admin

end ReplayProxy
