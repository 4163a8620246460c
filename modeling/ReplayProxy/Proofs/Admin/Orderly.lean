import ReplayProxy.Proofs.Admin.Metadata

/-!
# The administration changes what it says and nothing else

This file puts together what is known of single requests (`Admin.Answered`) and of sequences of
requests (`Admin.exists_textual_run`), and adds what a request must do: a change of the state or
of the metadata that can be made is made, and deletions succeed as long as the caches answer.

Main statement:

* `Admin.answer_orderly`: a request that fails or only looks leaves the engine as it was, every
  other request changes no more than it is meant for (`Admin.Orderly`); and after any sequence of
  requests the metadata that are shown are those stored last since the last deletion.
-/

namespace ReplayProxy.Admin

open Json (Value)

/-! ### What is carried out -/

section CarriedOut

variable {e : Engine} {r : ClientRequest}

/-- What is carried out by another method than `GET` and its kin is answered as it ends. -/
theorem answer_eq_conclude (resource : Resource) {outcome : Outcome}
    (hmethod : r.method = "POST" ∨ r.method = "PUT" ∨ r.method = "DELETE")
    (hpath : r.uri.path = resource.path) (hperform : perform e resource r = some outcome) :
    answer e r = conclude e outcome := by
  have hoptions : r.method ≠ "OPTIONS" := by rcases hmethod with h | h | h <;> simp [h]
  have hhead : r.method ≠ "HEAD" := by rcases hmethod with h | h | h <;> simp [h]
  rw [answer_of_perform hoptions hpath hperform, if_neg hhead]

/-- A body that can be read goes to its handler, or the request fails before that. -/
theorem jsonOf_eq_or {read : Json.Tree → Except Json.Fault α} {next : α → Outcome} {body : Bytes}
    {a : α} (hbody : r.body = .ok body) (hread : Json.decode read body = .ok a) :
    jsonOf r read next = next a ∨
      ∃ status text, 400 ≤ status ∧ jsonOf r read next = .rejected status text := by
  unfold jsonOf bodyOf
  -- what the body must announce and how long it may be is checked before it is read
  by_cases hjson : announcesJson r = true
  · by_cases hlength : body.length > bodyLimit
    · simp only [hjson, hbody, if_pos hlength]
      exact .inr ⟨413, _, by decide, rfl⟩
    · refine .inl ?_
      simp [hjson, hbody, hlength, hread]
  · simp only [hjson]
    exact .inr ⟨415, _, by decide, rfl⟩

/-- It does go there if it announces itself as JSON and is not too long. -/
theorem jsonOf_eq {read : Json.Tree → Except Json.Fault α} {next : α → Outcome} {body : Bytes}
    {a : α} (hjson : announcesJson r = true) (hbody : r.body = .ok body)
    (hlength : body.length ≤ bodyLimit) (hread : Json.decode read body = .ok a) :
    jsonOf r read next = next a := by
  have hshort : ¬body.length > bodyLimit := Nat.not_lt.2 hlength
  simp [jsonOf, bodyOf, hjson, hbody, hshort, hread]

theorem answer_post_state (hmethod : r.method = "POST") (hpath : r.uri.path = "/api/state") :
    answer e r = conclude e (jsonOf r StateChange.ofTree (changeState e)) :=
  answer_eq_conclude .state (.inl hmethod) hpath (by simp [perform, hmethod])

theorem answer_put_metadata (hmethod : r.method = "PUT") (hpath : r.uri.path = "/api/metadata") :
    answer e r = conclude e (jsonOf r MetadataEntry.ofTree (storeMetadata e)) :=
  answer_eq_conclude .metadata (.inr (.inl hmethod)) hpath
    (by simp [perform, hmethod])

theorem answer_delete_metadata (hsound : e.metadata.Sound) (hmethod : r.method = "DELETE")
    (hpath : r.uri.path = "/api/metadata") :
    answer e r = (replyWith 200 (message "Metadata deleted successfully"),
      { e with metadata := { e.metadata with backing := e.metadata.backing.clear } }) := by
  -- a cache that answers can be cleared
  have hdelete := Engine.deleteMetadata_eq_ok_iff.2 ⟨hsound .clear, rfl⟩
  rw [answer_eq_conclude .metadata (.inr (.inr hmethod)) hpath
    (by simp only [perform, hmethod]; rfl), hdelete]
  rfl

theorem answer_delete_records (hsound : e.requests.Sound) (hmethod : r.method = "DELETE")
    (hpath : r.uri.path = "/api/records") :
    answer e r = (replyWith 200 (message "Proxy cache deleted successfully"),
      { e with requests := { e.requests with backing := e.requests.backing.clear } }) := by
  have hdelete := Engine.deleteRecords_eq_ok_iff.2 ⟨hsound .clear, rfl⟩
  rw [answer_eq_conclude .records (.inr (.inr hmethod)) hpath
    (by simp only [perform, hmethod]; rfl), hdelete]
  rfl

/-- The value that shows metadata. -/
def metadataValue (m : Std.ExtTreeMap String String) : Value :=
  .object [("data", .object (m.toList.map fun entry => (entry.1, .string entry.2)))]

theorem answer_get_metadata (hsound : e.metadata.Sound) {m : Std.ExtTreeMap String String}
    (h : Textual e.metadata m) (hmethod : r.method = "GET") (hpath : r.uri.path = "/api/metadata") :
    answer e r = (replyWith 200 (metadataValue m), e) := by
  have hdisplay : display e .metadata = .done 200 (metadataValue m) e := by
    rw [display, metadataEntries_of_textual hsound h]
    rfl
  have hperform : perform e .metadata r = some (display e .metadata) := by simp [perform, hmethod]
  rw [answer_of_perform (by simp [hmethod]) hpath hperform, hdisplay, if_neg (by simp [hmethod])]
  rfl

end CarriedOut

/-! ### Order -/

/-- What a request may do, and what it must. -/
structure Orderly (e : Engine) (r : ClientRequest) (reply : Reply) (e' : Engine) : Prop where
  /-- A request that fails leaves everything as it was. -/
  failed : 400 ≤ reply.status → e' = e
  /-- So does one that only looks. -/
  looked : r.method = "GET" ∨ r.method = "HEAD" ∨ r.method = "OPTIONS" → e' = e
  /-- A change of the state that succeeds sets what it names, and shows what has become of it. -/
  state : r.method = "POST" → r.uri.path = "/api/state" → reply.status = 200 →
    ∃ body c, r.body = .ok body ∧ Json.decode StateChange.ofTree body = .ok c ∧ Changed e c e' ∧
      reply.body = (stateValue e').bytes
  /-- If one part of it cannot be set, then none is, -/
  unacceptable : r.method = "POST" → r.uri.path = "/api/state" → ∀ body c, r.body = .ok body →
    Json.decode StateChange.ofTree body = .ok c → ¬Acceptable e c → 400 ≤ reply.status ∧ e' = e
  /-- and if all can be, then it succeeds. -/
  acceptable : r.method = "POST" → r.uri.path = "/api/state" → announcesJson r = true →
    ∀ body c, r.body = .ok body → body.length ≤ bodyLimit →
      Json.decode StateChange.ofTree body = .ok c → Acceptable e c → reply.status = 200
  /-- Metadata are stored under one key. -/
  metadataStored : r.method = "PUT" → r.uri.path = "/api/metadata" → reply.status = 201 →
    ∃ body m, r.body = .ok body ∧ Json.decode MetadataEntry.ofTree body = .ok m ∧
      e' = { e with metadata := e'.metadata } ∧
        ∀ key, e'.metadata.backing.get? key =
          if Bytes.ofText m.key = key then some (Bytes.ofText m.value)
          else e.metadata.backing.get? key
  /-- They can be stored under any key but the empty one. -/
  storable : r.method = "PUT" → r.uri.path = "/api/metadata" → announcesJson r = true →
    ∀ body m, r.body = .ok body → body.length ≤ bodyLimit →
      Json.decode MetadataEntry.ofTree body = .ok m →
        reply.status = if m.key.isEmpty then 400 else 201
  /-- A deletion removes everything from its own cache. -/
  metadataDeleted : r.method = "DELETE" → r.uri.path = "/api/metadata" →
    reply.status = 200 ∧ e' = { e with metadata := e'.metadata } ∧
      ∀ key, e'.metadata.backing.get? key = none
  recordsDeleted : r.method = "DELETE" → r.uri.path = "/api/records" →
    reply.status = 200 ∧ e' = { e with requests := e'.requests } ∧
      ∀ key, e'.requests.backing.get? key = none
  /-- An import changes nothing but the records. -/
  imported : r.method = "POST" → r.uri.path = "/api/records" →
    e' = { e with requests := e'.requests }

section Orderly

variable {e e' : Engine} {r : ClientRequest} {reply : Reply}

theorem Answered.eq_of_failed (h : Answered e r reply e') (hstatus : 400 ≤ reply.status) :
    e' = e := by
  obtain ⟨h200, h201⟩ := status_ne_of_failed hstatus
  cases h with
  | looked => rfl
  | failed => rfl
  | metadataStored hmethod hpath hstatus => exact absurd hstatus h201
  | imported hmethod hpath hstatus => exact absurd hstatus h200
  | recordsDeleted hmethod hpath hstatus => exact absurd hstatus h200
  | stateChanged hmethod hpath hstatus => exact absurd hstatus h200
  | metadataDeleted hmethod hpath hstatus => exact absurd hstatus h200

/-- Each change is bound to a method, and none of these methods only looks. -/
theorem Answered.eq_of_looked (h : Answered e r reply e')
    (hmethod : r.method = "GET" ∨ r.method = "HEAD" ∨ r.method = "OPTIONS") : e' = e := by
  have hchanges : ∀ {m : String}, r.method = m → m = "POST" ∨ m = "PUT" ∨ m = "DELETE" →
      e' = e := by
    rintro m rfl hm
    rcases hmethod with hmethod | hmethod | hmethod <;> simp [hmethod] at hm
  cases h with
  | looked | failed => rfl
  | imported hpost | stateChanged hpost => exact hchanges hpost (.inl rfl)
  | metadataStored hput => exact hchanges hput (.inr (.inl rfl))
  | recordsDeleted hdelete | metadataDeleted hdelete => exact hchanges hdelete (.inr (.inr rfl))

theorem Answered.state_of_post (h : Answered e r reply e') (hmethod : r.method = "POST")
    (hpath : r.uri.path = "/api/state") (hstatus : reply.status = 200) :
    ∃ body c, r.body = .ok body ∧ Json.decode StateChange.ofTree body = .ok c ∧ Changed e c e' ∧
      reply.body = (stateValue e').bytes := by
  cases h with
  | stateChanged _ _ _ hbody hread hchanged hreply =>
    exact ⟨_, _, hbody, hread, hchanged, hreply⟩
  | failed hfailed => exact absurd hstatus (status_ne_of_failed hfailed).1
  | looked hlooked => simp [hmethod] at hlooked
  | imported _ hother => exact absurd (hpath.symm.trans hother) (by decide)
  | metadataStored hother | recordsDeleted hother | metadataDeleted hother =>
    exact absurd (hmethod.symm.trans hother) (by decide)

theorem Answered.metadata_of_put (h : Answered e r reply e') (hmethod : r.method = "PUT")
    (hstatus : reply.status = 201) :
    ∃ body m, r.body = .ok body ∧ Json.decode MetadataEntry.ofTree body = .ok m ∧
      e' = { e with metadata := e'.metadata } ∧
        ∀ key, e'.metadata.backing.get? key =
          if Bytes.ofText m.key = key then some (Bytes.ofText m.value)
          else e.metadata.backing.get? key := by
  cases h with
  | metadataStored _ _ _ hbody hread =>
    exact ⟨_, _, hbody, hread, rfl, fun key => Backing.get?_set _ _ _ key⟩
  | failed hfailed => exact absurd hstatus (status_ne_of_failed hfailed).2
  | looked hlooked => simp [hmethod] at hlooked
  | imported hother | stateChanged hother | recordsDeleted hother | metadataDeleted hother =>
    exact absurd (hmethod.symm.trans hother) (by decide)

theorem Answered.eq_of_import (h : Answered e r reply e') (hmethod : r.method = "POST")
    (hpath : r.uri.path = "/api/records") : e' = { e with requests := e'.requests } := by
  cases h with
  | imported => rfl
  | failed => rfl
  | stateChanged _ hstate => exact absurd (hpath.symm.trans hstate) (by decide)
  | looked hlooked => simp [hmethod] at hlooked
  | metadataStored hother | recordsDeleted hother | metadataDeleted hother =>
    exact absurd (hmethod.symm.trans hother) (by decide)

theorem status_storeMetadata (hsound : e.metadata.Sound) (m : MetadataEntry) :
    (conclude e (storeMetadata e m)).1.status = if m.key.isEmpty then 400 else 201 := by
  unfold storeMetadata
  by_cases hkey : m.key.isEmpty = true
  · rw [if_pos hkey, if_pos hkey]
    rfl
  · have hset : e.setMetadata m.key m.value = .ok _ :=
      Engine.setMetadata_eq_ok_iff.2 ⟨hkey, hsound .set, rfl⟩
    rw [if_neg hkey, if_neg hkey, hset]
    rfl

/-- What a request tells of an entry that can be stored. -/
theorem event?_answer_put (hsound : e.metadata.Sound) (hmethod : r.method = "PUT")
    (hpath : r.uri.path = "/api/metadata") (hjson : announcesJson r = true) {body : Bytes}
    (hbody : r.body = .ok body) (hlength : body.length ≤ bodyLimit) {m : MetadataEntry}
    (hread : Json.decode MetadataEntry.ofTree body = .ok m) (hkey : ¬m.key.isEmpty = true) :
    event? r (answer e r).1 = some (.stored m) := by
  have hstatus : (answer e r).1.status = 201 := by
    rw [answer_put_metadata hmethod hpath, jsonOf_eq hjson hbody hlength hread,
      status_storeMetadata hsound, if_neg hkey]
  simp [event?, hpath, hmethod, hstatus, hbody, hread, Except.toOption]

end Orderly

/-- **The administration changes what it says and nothing else.** For every engine whose caches
answer:

* every request is answered in an orderly way;
* after any sequence of requests, what is shown of the metadata is what was stored last under each
  key since the last deletion. What was there in the beginning must be texts, unless it is
  deleted on the way. -/
theorem answer_orderly {e : Engine} (hrequests : e.requests.Sound) (hmetadata : e.metadata.Sound) :
    (∀ r, Orderly e r (answer e r).1 (answer e r).2) ∧
      ∀ m rs, Textual e.metadata m ∨ .deleted ∈ events e rs →
        ∃ m' : Std.ExtTreeMap String String,
          (∀ key, m'[key]? = lastValue m key (events e rs)) ∧
            ∀ r, r.method = "GET" → r.uri.path = "/api/metadata" →
              answer (run e rs) r = (replyWith 200 (metadataValue m'), run e rs) := by
  refine ⟨fun r => ?_, fun m rs h => ?_⟩
  · have hanswered := answer_answered e r
    refine
      { failed := hanswered.eq_of_failed
        looked := hanswered.eq_of_looked
        state := fun hmethod hpath hstatus => ?_
        unacceptable := fun hmethod hpath body c hbody hread hnot => ?_
        acceptable := fun hmethod hpath hjson body c hbody hlength hread hacceptable => ?_
        metadataStored := fun hmethod hpath hstatus => ?_
        storable := fun hmethod hpath hjson body m hbody hlength hread => ?_
        metadataDeleted := fun hmethod hpath => ?_
        recordsDeleted := fun hmethod hpath => ?_
        imported := fun hmethod hpath => ?_ }
    · exact hanswered.state_of_post hmethod hpath hstatus
    · -- the handler refuses the change, if the request comes to it at all
      rw [answer_post_state hmethod hpath]
      rcases jsonOf_eq_or hbody hread with hnext | ⟨status, text, hstatus, hrejected⟩
      · obtain ⟨reason, hchange⟩ := changeState_of_not_acceptable hnot
        rw [hnext, hchange]
        exact ⟨le_status_error _, rfl⟩
      · rw [hrejected]
        exact ⟨hstatus, rfl⟩
    · obtain ⟨e', hchange, -⟩ := changeState_of_acceptable hacceptable
      rw [answer_post_state hmethod hpath, jsonOf_eq hjson hbody hlength hread, hchange]
      rfl
    · exact hanswered.metadata_of_put hmethod hstatus
    · -- the entry reaches the handler, whose only objection is to an empty key
      rw [answer_put_metadata hmethod hpath, jsonOf_eq hjson hbody hlength hread]
      exact status_storeMetadata hmetadata m
    · rw [answer_delete_metadata hmetadata hmethod hpath]
      exact ⟨rfl, rfl, Backing.get?_clear _⟩
    · rw [answer_delete_records hrequests hmethod hpath]
      exact ⟨rfl, rfl, Backing.get?_clear _⟩
    · exact hanswered.eq_of_import hmethod hpath
  · obtain ⟨-, hsound, m', hm', hvalue⟩ := exists_textual_run hrequests hmetadata m rs h
    exact ⟨m', hvalue, fun r hmethod hpath => answer_get_metadata hsound hm' hmethod hpath⟩

/-- A request to a path, with a body in JSON. -/
def asking (method path body : String) : ClientRequest where
  method
  uri := { scheme := none, authority := none, writtenPath := path, query := none }
  headers := [("content-type", Bytes.ofText "application/json")]
  body := .ok (Bytes.ofText body)

/-- Storing two values under one key, one after the other. -/
def noting : List ClientRequest :=
  [asking "PUT" "/api/metadata" "[\"a\",\"1\"]", asking "PUT" "/api/metadata" "[\"a\",\"2\"]"]

/-- Setting the destination and a mode that does not exist. -/
def steering : ClientRequest := asking "POST" "/api/state" "[\"replay\",\"shop\"]"

theorem read_of_toOption {read : Json.Tree → Except Json.Fault α} {body : Bytes} {a : α}
    (h : (Json.decode read body).toOption = some a) : Json.decode read body = .ok a :=
  eq_ok_of_toOption h

theorem announcesJson_asking (method path body : String) :
    announcesJson (asking method path body) = true := by
  -- only the headers matter, and they are the same for all
  have hheaders : (asking method path body).headers = (asking "" "" "").headers := rfl
  rw [announcesJson, hheaders]
  decide +kernel

theorem events_noting :
    events Engine.recorder noting = [.stored ⟨"a", "1"⟩, .stored ⟨"a", "2"⟩] := by
  -- both requests are stored alike; the first leaves an engine whose metadata answer still
  have hevent : ∀ (e : Engine) (body value : String), e.metadata.Sound →
      (Bytes.ofText body).length ≤ bodyLimit →
        (Json.decode MetadataEntry.ofTree (Bytes.ofText body)).toOption = some ⟨"a", value⟩ →
          event? (asking "PUT" "/api/metadata" body)
            (answer e (asking "PUT" "/api/metadata" body)).1 = some (.stored ⟨"a", value⟩) :=
    fun e body value hsound hlength hread =>
      event?_answer_put hsound rfl rfl (announcesJson_asking _ _ _) rfl hlength
        (read_of_toOption hread) (show ¬"a".isEmpty = true by decide)
  have hsound : Engine.recorder.metadata.Sound := fun _ => rfl
  have hsound' := ((answer_answered Engine.recorder
    (asking "PUT" "/api/metadata" "[\"a\",\"1\"]")).sound (fun _ => rfl) hsound).2
  simp only [noting, events]
  rw [hevent _ _ "1" hsound (by decide) (by decide +kernel),
    hevent _ _ "2" hsound' (by decide) (by decide +kernel)]
  rfl

/-- The second value is shown, and the destination is not set along with a mode that does not
exist. -/
theorem answer_orderly_noting :
    Engine.recorder.requests.Sound ∧ Engine.recorder.metadata.Sound ∧
      (∃ m' : Std.ExtTreeMap String String, m'["a"]? = some "2" ∧ m'["b"]? = none ∧
        answer (run Engine.recorder noting) (asking "GET" "/api/metadata" "") =
          (replyWith 200 (metadataValue m'), run Engine.recorder noting)) ∧
      400 ≤ (answer Engine.recorder steering).1.status ∧
        (answer Engine.recorder steering).2 = Engine.recorder := by
  have hrequests : Engine.recorder.requests.Sound := fun _ => rfl
  have hmetadata : Engine.recorder.metadata.Sound := fun _ => rfl
  obtain ⟨horderly, hrun⟩ := answer_orderly hrequests hmetadata
  obtain ⟨m', hvalue, hshown⟩ := hrun ∅ noting (.inl (textual_of_get?_eq_none fun key => by
    simp [Engine.recorder, Cache.inMemory, Backing.get?]))
  rw [events_noting] at hvalue
  refine ⟨hrequests, hmetadata, ⟨m', ?_, ?_, hshown _ rfl rfl⟩, ?_⟩
  · rw [hvalue]
    rfl
  · rw [hvalue]
    simp [lastValue, MetadataEvent.concerns]
  · -- the mode has no such name, so the destination beside it is not set either
    refine (horderly steering).unacceptable rfl rfl (Bytes.ofText "[\"replay\",\"shop\"]")
      ⟨some "replay", some "shop"⟩ rfl (read_of_toOption (by decide +kernel)) fun hacceptable => ?_
    obtain ⟨m, hparse, -⟩ := hacceptable.mode "replay" rfl
    have hnone : (Mode.parse "replay").toOption.isNone = true := by decide +kernel
    simp [hparse, Except.toOption] at hnone

end ReplayProxy.Admin
