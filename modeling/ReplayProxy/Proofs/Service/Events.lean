import ReplayProxy.Proofs.Admin.Orderly

/-!
# An engine in service

An engine in service is reached from three sides: clients send requests through the proxy, people
send requests to the administration, and the program uses the engine itself. Meanwhile the media
under its caches fail and recover, and the world goes on. All of these are *events*
(`Service.Event`), and a run is a sequence of them, in any order.

This file says once what an event does to the mode, the transform and the counters
(`Service.moves_occur`):

* the mode is the one that the event switches to, if it switches (`Service.switch?`);
* the transform stays;
* one counter moves, that of the mode before the event, if the event is one to be counted
  (`Service.counted`).

What holds of runs is an induction over their events from there.
-/

namespace ReplayProxy

/-- A request that names a host and whose body can be read is read into the engine's form. -/
theorem ClientRequest.exists_request {r : ClientRequest} (hhost : r.uri.host?.isSome = true)
    (hbody : r.body.isOk = true) : ∃ request, r.request = .ok request := by
  unfold request
  cases hauthority : r.uri.authority with
  | none => simp [Http.Uri.host?, hauthority] at hhost
  | some authority =>
    cases hread : r.body with
    | error reason => simp [hread, Except.isOk, Except.toBool] at hbody
    | ok body => exact ⟨_, rfl⟩

/-- What is read of a request with an authority and a body. -/
theorem ClientRequest.request_of_body {r : ClientRequest} {authority : String} {body : Bytes}
    (hauthority : r.uri.authority = some authority) (hbody : r.body = .ok body) :
    r.request = .ok
      { method := r.method, scheme := r.uri.scheme.getD "http"
        destination := destination (r.uri.scheme.getD "http") authority
        path := r.uri.path, query := r.uri.query.getD "", body
        headers := Headers.ofPairs (r.headers.map fun h => (h.1, Utf8.lossy h.2)) } := by
  simp only [request, hauthority, hbody]
  rfl

/-- Nothing else is read of a request. -/
theorem ClientRequest.request_eq_ok {r : ClientRequest} {q : Request} (h : r.request = .ok q) :
    ∃ authority body, r.uri.authority = some authority ∧ r.body = .ok body ∧
      q =
        { method := r.method, scheme := r.uri.scheme.getD "http"
          destination := destination (r.uri.scheme.getD "http") authority
          path := r.uri.path, query := r.uri.query.getD "", body
          headers := Headers.ofPairs (r.headers.map fun h => (h.1, Utf8.lossy h.2)) } := by
  -- a request has an authority and a body that was read to its end
  cases hauthority : r.uri.authority with
  | none =>
    simp only [request, hauthority] at h
    cases h
  | some authority =>
    cases hbody : r.body with
    | error reason =>
      simp only [request, hauthority, hbody] at h
      cases h
    | ok body =>
      rw [request_of_body hauthority hbody] at h
      exact ⟨authority, body, rfl, rfl, (Except.ok.inj h).symm⟩

theorem ClientRequest.request_of_body_error {r : ClientRequest} {authority reason : String}
    (hauthority : r.uri.authority = some authority) (hbody : r.body = .error reason) :
    r.request = .error (.http ("failed to read request body: " ++ reason)) := by
  simp only [request, hauthority, hbody]
  rfl

/-- A body that cannot be read makes a request malformed. -/
theorem ClientRequest.request_of_unreadable {r : ClientRequest} (hbody : r.body.isOk = false) :
    ∃ err, r.request = .error err := by
  unfold request
  cases r.uri.authority with
  | none => exact ⟨_, rfl⟩
  | some authority =>
    cases hread : r.body with
    | error reason => exact ⟨_, rfl⟩
    | ok body => simp [hread, Except.isOk, Except.toBool] at hbody

namespace Engine

/-! ### Requests of clients -/

/-- Whether the engine answers a client's request itself: the request asks for no tunnel, names a
host of the engine's concern, and has a body that can be read. -/
def takesUp (e : Engine) (r : ClientRequest) : Bool :=
  r.method != "CONNECT" && e.intercepts r.uri && r.body.isOk

section Handling

variable {σ : Type} {e : Engine} {r : ClientRequest} (s : Surroundings σ) (w : σ)

/-- What the engine does not take up changes nothing, inside or outside. -/
theorem handle_of_not_takesUp (h : e.takesUp r = false) :
    (e.handle s r w).1.2 = e ∧ (e.handle s r w).2 = w := by
  unfold handle
  by_cases hconnect : r.method = "CONNECT"
  · rw [if_pos hconnect]
    exact ⟨rfl, rfl⟩
  · rw [if_neg hconnect]
    cases hhost : r.uri.host? with
    | none => exact ⟨rfl, rfl⟩
    | some host =>
      cases hconcerns : e.concerns host with
      | false =>
        simp only [hconcerns]
        exact ⟨rfl, rfl⟩
      | true =>
        -- what is left is a body that cannot be read
        have hbody : r.body.isOk = false := by
          simpa [takesUp, intercepts, hconnect, hhost, hconcerns] using h
        obtain ⟨err, hrequest⟩ := ClientRequest.request_of_unreadable hbody
        simp only [hconcerns, hrequest]
        exact ⟨rfl, rfl⟩

/-- What the engine takes up is processed, whatever the reply is made of the response. -/
theorem handle_of_takesUp (h : e.takesUp r = true) :
    ∃ request, r.request = .ok request ∧
      (e.handle s r w).1.2 = (e.process s request w).1.2 ∧
      (e.handle s r w).2 = (e.process s request w).2 := by
  simp only [takesUp, intercepts, Bool.and_eq_true, bne_iff_ne, ne_eq] at h
  obtain ⟨⟨hconnect, hconcerns⟩, hbody⟩ := h
  obtain ⟨host, hhost, hhostConcerns⟩ := (Option.any_eq_true _ _).1 hconcerns
  obtain ⟨request, hrequest⟩ := ClientRequest.exists_request (by rw [hhost]; rfl) hbody
  refine ⟨request, hrequest, ?_⟩
  -- all that is looked at before the request is processed lets it pass
  unfold handle
  simp only [if_neg hconnect, hhost, hhostConcerns, hrequest]
  exact ⟨rfl, rfl⟩

end Handling

/-! ### Modes and counters -/

/-- From one engine to the next, the mode is switched or not, a request is counted or not, and the
transform stays. -/
structure Moves (e : Engine) (switch : Option Mode) (counted : Bool) (e' : Engine) : Prop where
  mode : e'.mode = switch.getD e.mode
  transform : e'.transform = e.transform
  /-- A request counts for the mode in which it arrived. -/
  counters : e'.counters = if counted then e.counters.increment e.mode else e.counters

theorem Moves.refl (e : Engine) : Moves e none false e := ⟨rfl, rfl, rfl⟩

theorem moves_process (e : Engine) (s : Surroundings σ) (r : Request) (w : σ) :
    Moves e none true (e.process s r w).1.2 := by
  rw [process, answer_engine]
  exact ⟨rfl, rfl, rfl⟩

theorem moves_handle (e : Engine) (s : Surroundings σ) (r : ClientRequest) (w : σ) :
    Moves e none (e.takesUp r) (e.handle s r w).1.2 := by
  cases htakes : e.takesUp r with
  | false =>
    rw [(handle_of_not_takesUp s w htakes).1]
    exact .refl e
  | true =>
    obtain ⟨request, -, hengine, -⟩ := handle_of_takesUp s w htakes
    rw [hengine]
    exact moves_process e s request w

/-- An operation that may fail neither switches nor counts if it does not do so when it
succeeds. -/
theorem moves_kept {e : Engine} {result : Except ProxyError Engine}
    (h : ∀ e', result = .ok e' → Moves e none false e') : Moves e none false (e.kept result) := by
  cases hresult : result with
  | error err => exact .refl e
  | ok e' => exact h e' hresult

theorem moves_kept_import (e : Engine) (a : Archive) :
    Moves e none false (e.kept ((e.importArchive a).map Prod.snd)) := by
  cases himport : e.importArchive a with
  | error err => exact .refl e
  | ok result =>
    obtain ⟨n, e'⟩ := result
    obtain rfl := importArchive_eq_ok himport
    exact ⟨rfl, rfl, rfl⟩

/-- Setting a mode succeeds unless the mode lacks its transform. -/
theorem setMode_eq (e : Engine) (m : Mode) :
    e.setMode m =
      if m.requiresTransform = true ∧ e.transform = none then .error (.missingTransform m)
      else .ok { e with mode := m } := by
  unfold setMode checkMode
  by_cases hlacks : m.requiresTransform = true ∧ e.transform = none
  · rw [if_pos hlacks, hlacks.1, hlacks.2]
    rfl
  · have hcheck : (m.requiresTransform && e.transform.isNone) = false := by
      rw [Bool.eq_false_iff, ne_eq, Bool.and_eq_true, Option.isNone_iff_eq_none]
      exact hlacks
    rw [if_neg hlacks, hcheck]
    rfl

/-- The mode to which an action switches. -/
def switchOf? (e : Engine) : Action → Option Mode
  | .setMode m => if (e.setMode m).isOk then some m else none
  | _ => none

/-- Whether an action is a request to be counted. -/
def Action.isProcess : Action → Bool
  | .process _ => true
  | _ => false

/-- Of all actions, one switches the mode and one is counted. -/
theorem moves_act (e : Engine) (s : Surroundings σ) (a : Action) (w : σ) :
    Moves e (e.switchOf? a) a.isProcess (e.act s a w).1 := by
  cases a with
  | process r => exact moves_process e s r w
  | setMode m =>
    simp only [act, switchOf?, setMode_eq]
    split <;> exact ⟨rfl, rfl, rfl⟩
  | setDestination text =>
    refine moves_kept fun e' h => ?_
    obtain ⟨_, -, h⟩ := bind_eq_ok_iff.1 h
    cases h
    exact ⟨rfl, rfl, rfl⟩
  | importArchive a => exact moves_kept_import e a
  | importFrom files location =>
    simp only [act, bind_apply, pure_apply]
    rw [importFrom_apply]
    -- reading the archive touches the world only
    cases (archiveAt files s location w).1 with
    | error err => exact .refl e
    | ok a => exact moves_kept_import e a
  | deleteRecords =>
    refine moves_kept fun e' h => ?_
    obtain ⟨-, rfl⟩ := deleteRecords_eq_ok_iff.1 h
    exact ⟨rfl, rfl, rfl⟩
  | setMetadata key value =>
    refine moves_kept fun e' h => ?_
    obtain ⟨-, -, rfl⟩ := setMetadata_eq_ok_iff.1 h
    exact ⟨rfl, rfl, rfl⟩
  | deleteMetadata =>
    refine moves_kept fun e' h => ?_
    obtain ⟨-, rfl⟩ := deleteMetadata_eq_ok_iff.1 h
    exact ⟨rfl, rfl, rfl⟩

end Engine

/-! ### Requests to the administration -/

namespace Admin

/-- The mode that the body of a request names. -/
def modeAsked? (r : ClientRequest) : Option Mode := do
  let body ← r.body.toOption
  let change ← (Json.decode StateChange.ofTree body).toOption
  (Mode.parse (← change.mode)).toOption

/-- The mode to which a request to the administration switches: the one that it names, if it is a
change of the state that succeeds. -/
def switchOf? (e : Engine) (r : ClientRequest) : Option Mode :=
  if r.method = "POST" ∧ r.uri.path = "/api/state" ∧ (answer e r).1.status = 200 then modeAsked? r
  else none

theorem modeAsked?_of_read {r : ClientRequest} {body : Bytes} {change : StateChange}
    (hbody : r.body = .ok body) (hread : Json.decode StateChange.ofTree body = .ok change) :
    modeAsked? r = change.mode.bind fun name => (Mode.parse name).toOption := by
  simp only [modeAsked?, hbody, Except.toOption, Option.bind_eq_bind, Option.bind_some, hread]

/-- A request to the administration is never counted. -/
theorem moves_answer (e : Engine) (r : ClientRequest) :
    Engine.Moves e (switchOf? e r) false (answer e r).2 := by
  have hanswered := answer_answered e r
  unfold switchOf?
  generalize (answer e r).1 = reply at hanswered ⊢
  generalize (answer e r).2 = e' at hanswered ⊢
  cases hanswered with
  | looked hmethod =>
    -- the mode is only set by posting
    have hpost : ¬r.method = "POST" := by
      rcases hmethod with h | h | h <;> rw [h] <;> decide
    rw [if_neg fun h => hpost h.1]
    exact .refl e
  | failed hstatus =>
    rw [if_neg fun h => (status_ne_of_failed hstatus).1 h.2.2]
    exact .refl e
  | imported hmethod hpath hstatus a =>
    -- nor is it set by anything that is done at another path
    rw [if_neg fun h => absurd (hpath.symm.trans h.2.1) (by decide)]
    exact ⟨rfl, rfl, rfl⟩
  | recordsDeleted hmethod hpath hstatus =>
    rw [if_neg fun h => absurd (hpath.symm.trans h.2.1) (by decide)]
    exact ⟨rfl, rfl, rfl⟩
  | @stateChanged _ body change hmethod hpath hstatus hbody hread hchanged hreply =>
    rw [if_pos ⟨hmethod, hpath, hstatus⟩]
    refine ⟨?_, by rw [hchanged.frame], by rw [hchanged.frame]; rfl⟩
    -- the change says what becomes of the mode
    have hmode := hchanged.mode
    rw [modeAsked?_of_read hbody hread]
    cases hname : change.mode with
    | none =>
      simp only [hname] at hmode
      exact hmode
    | some name =>
      simp only [hname] at hmode
      rw [Option.bind_some, hmode]
      rfl
  | metadataStored hmethod hpath hstatus hbody hread =>
    rw [if_neg fun h => absurd (hpath.symm.trans h.2.1) (by decide)]
    exact ⟨rfl, rfl, rfl⟩
  | metadataDeleted hmethod hpath hstatus =>
    rw [if_neg fun h => absurd (hpath.symm.trans h.2.1) (by decide)]
    exact ⟨rfl, rfl, rfl⟩

/-- A change of the state that succeeds was one that can be made. -/
theorem acceptable_of_status {e : Engine} {r : ClientRequest} {body : Bytes} {change : StateChange}
    (hmethod : r.method = "POST") (hpath : r.uri.path = "/api/state") (hbody : r.body = .ok body)
    (hread : Json.decode StateChange.ofTree body = .ok change)
    (hstatus : (answer e r).1.status = 200) : Acceptable e change := by
  refine Classical.byContradiction fun hnot => ?_
  obtain ⟨reason, hrefused⟩ := changeState_of_not_acceptable hnot
  -- the handler refuses the change, or the request fails before it comes there
  have hfailed : 400 ≤ (answer e r).1.status := by
    rw [answer_post_state hmethod hpath]
    rcases jsonOf_eq_or hbody hread with hnext | ⟨status, text, hle, hrejected⟩
    · rw [hnext, hrefused]
      exact le_status_error _
    · rw [hrejected]
      exact hle
  exact (status_ne_of_failed hfailed).1 hstatus

/-- A mode to which the administration switches does not lack its transform. -/
theorem transform_of_switchOf? {e : Engine} {r : ClientRequest} {m : Mode}
    (h : switchOf? e r = some m) (hrequires : m.requiresTransform = true) : e.transform ≠ none := by
  unfold switchOf? at h
  split at h
  · next hpost =>
    obtain ⟨hmethod, hpath, hstatus⟩ := hpost
    obtain ⟨body, change, hbody, hread, -, -⟩ :=
      (answer_answered e r).state_of_post hmethod hpath hstatus
    have hacceptable := acceptable_of_status hmethod hpath hbody hread hstatus
    rw [modeAsked?_of_read hbody hread, Option.bind_eq_some_iff] at h
    obtain ⟨name, hname, hm⟩ := h
    -- the name stands for one mode only
    obtain ⟨m', hparse, htransform⟩ := hacceptable.mode name hname
    obtain rfl : m' = m := by simpa [hparse, Except.toOption] using hm
    exact htransform hrequires
  · cases h

end Admin

/-! ### Events -/

/-- An engine in service, and the world around it. -/
structure Service (σ : Type) where
  engine : Engine
  world : σ

namespace Service

/-- What can happen to an engine in service. -/
inductive Event (σ : Type) where
  /-- A request comes through the proxy. -/
  | requested (r : ClientRequest)
  /-- A request comes to the administration. -/
  | administered (r : ClientRequest)
  /-- The program uses the engine itself. -/
  | acted (a : Engine.Action)
  /-- The media under the caches begin to fail, fail in another way, or recover. -/
  | disturbed (requests metadata : Operation → Option StorageError)
  /-- The world goes on by itself. -/
  | elapsed (w : σ)

variable {σ : Type}

/-- What an event leaves. -/
def occur (s : Surroundings σ) (st : Service σ) : Event σ → Service σ
  | .requested r =>
    let result := st.engine.handle s r st.world
    ⟨result.1.2, result.2⟩
  | .administered r => { st with engine := (Admin.answer st.engine r).2 }
  | .acted a =>
    let result := st.engine.act s a st.world
    ⟨result.1, result.2⟩
  | .disturbed requests metadata =>
    { st with engine :=
        { st.engine with
          requests := st.engine.requests.withFaults requests
          metadata := st.engine.metadata.withFaults metadata } }
  | .elapsed w => { st with world := w }

/-- What a run of events leaves. -/
def after (s : Surroundings σ) (st : Service σ) (events : List (Event σ)) : Service σ :=
  events.foldl (occur s) st

/-- The mode to which an event switches, if it does. -/
def switch? (st : Service σ) : Event σ → Option Mode
  | .administered r => Admin.switchOf? st.engine r
  | .acted a => st.engine.switchOf? a
  | .requested _ | .disturbed .. | .elapsed _ => none

/-- Whether an event is a request to be counted: one that the engine takes up, or one that it is
given by the program. -/
def counted (st : Service σ) : Event σ → Bool
  | .requested r => st.engine.takesUp r
  | .acted a => a.isProcess
  | .administered _ | .disturbed .. | .elapsed _ => false

/-- **One event.** Mode, transform and counters after any event. -/
theorem moves_occur (s : Surroundings σ) (st : Service σ) (event : Event σ) :
    Engine.Moves st.engine (st.switch? event) (st.counted event) (st.occur s event).engine := by
  cases event with
  | requested r => exact Engine.moves_handle st.engine s r st.world
  | administered r => exact Admin.moves_answer st.engine r
  | acted a => exact Engine.moves_act st.engine s a st.world
  | disturbed requests metadata => exact ⟨rfl, rfl, rfl⟩
  | elapsed w => exact .refl _

end Service

end ReplayProxy
