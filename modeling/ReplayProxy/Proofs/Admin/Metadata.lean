import ReplayProxy.Proofs.Admin.Answered

/-!
# The story of the metadata

The metadata are followed through any number of requests to the administration. Their story is
told by *events* (`Admin.MetadataEvent`), which are read off the requests and the replies alone,
and not off the engine: an entry is stored when a `PUT` is answered with the status 201, and
everything is deleted when a `DELETE` is answered with the status 200.

The cache holds bytes, and the administration shows texts. As long as nothing but texts was stored
(`Admin.Textual`), what is shown is what is held (`Admin.metadataEntries_of_textual`). A deletion
makes any cache textual, and every request leaves it so.

Main statement:

* `Admin.exists_textual_run`: after any sequence of requests there is under every key what was
  stored last since the last deletion (`Admin.lastValue`).
-/

namespace ReplayProxy.Admin

/-! ### Metadata as text -/

/-- The cache holds a map of texts, and nothing else. -/
def Textual (c : Cache) (m : Std.ExtTreeMap String String) : Prop :=
  ∀ key value, c.backing.get? key = some value ↔
    ∃ k v, m[k]? = some v ∧ key = Bytes.ofText k ∧ value = Bytes.ofText v

theorem textual_of_get?_eq_none {c : Cache} (h : ∀ key, c.backing.get? key = none) :
    Textual c ∅ := by
  intro key value
  simp [h]

theorem Textual.stored {c : Cache} {m : Std.ExtTreeMap String String} (h : Textual c m)
    (entry : MetadataEntry) :
    Textual { c with
      backing := c.backing.set (Bytes.ofText entry.key) (Bytes.ofText entry.value) }
      (m.insert entry.key entry.value) := by
  intro key value
  rw [Backing.get?_set]
  by_cases hkey : Bytes.ofText entry.key = key
  · rw [if_pos hkey]
    constructor
    · intro hvalue
      exact ⟨entry.key, entry.value, by simp, hkey.symm, (Option.some.inj hvalue).symm⟩
    · rintro ⟨k, v, hm, hk, rfl⟩
      -- only the same key has these bytes
      obtain rfl := Bytes.ofText_injective (hkey.trans hk)
      simpa [eq_comm] using congrArg (Option.map Bytes.ofText) hm
  · rw [if_neg hkey, h key value]
    refine exists_congr fun k => exists_congr fun v => and_congr_left fun ⟨hk, _⟩ => ?_
    have hne : entry.key ≠ k := fun heq => hkey (by rw [heq, hk])
    rw [Std.ExtTreeMap.getElem?_insert]
    simp [hne]

/-- What is shown of a map of texts is the map. -/
theorem metadataEntries_of_textual {e : Engine} (hsound : e.metadata.Sound)
    {m : Std.ExtTreeMap String String} (h : Textual e.metadata m) : e.metadataEntries = .ok m := by
  let read (entry : Bytes × Bytes) : String × String := (Utf8.lossy entry.1, Utf8.lossy entry.2)
  let entries := e.metadata.backing.entries
  -- what is listed and read as text is what the map holds
  have hmem : ∀ k v, (k, v) ∈ entries.map read ↔ m[k]? = some v := by
    intro k v
    constructor
    · intro hkv
      obtain ⟨⟨key, value⟩, hentry, hread⟩ := List.mem_map.1 hkv
      obtain ⟨k', v', hm, rfl, rfl⟩ := (h key value).1 (Backing.mem_entries_iff.1 hentry)
      obtain ⟨rfl, rfl⟩ : k' = k ∧ v' = v := by simpa [read] using hread
      exact hm
    · intro hm
      have hentry := Backing.mem_entries_iff.2 ((h _ _).2 ⟨k, v, hm, rfl, rfl⟩)
      exact List.mem_map.2 ⟨_, hentry, by simp [read]⟩
  -- the keys are distinct as bytes, and so they are as texts
  have hdistinct : (entries.map read).Pairwise fun a b => ¬compare a.1 b.1 = .eq := by
    rw [List.pairwise_map]
    refine e.metadata.backing.entries_ordered.imp_of_mem fun ha hb hlt heq => ?_
    obtain ⟨k, -, -, hk, -⟩ := (h _ _).1 (Backing.mem_entries_iff.1 ha)
    obtain ⟨k', -, -, hk', -⟩ := (h _ _).1 (Backing.mem_entries_iff.1 hb)
    have hsame : k = k' := by simpa [read, hk, hk'] using heq
    rw [hk, hk', hsame] at hlt
    simp at hlt
  have hresult : e.metadataEntries = .ok (Std.ExtTreeMap.ofList (entries.map read)) := by
    rw [Engine.metadataEntries, Cache.entries, Cache.answer_of_sound hsound,
      Std.ExtTreeMap.ofList_eq_foldl, List.foldl_map]
    rfl
  rw [hresult]
  refine congrArg Except.ok (Std.ExtTreeMap.ext_getElem? fun k => ?_)
  cases hm : m[k]? with
  | some v =>
    exact Std.ExtTreeMap.getElem?_ofList_of_mem Std.ReflCmp.compare_self hdistinct ((hmem k v).2 hm)
  | none =>
    refine Std.ExtTreeMap.getElem?_ofList_of_contains_eq_false ?_
    rw [Bool.eq_false_iff, ne_eq, List.contains_iff_mem, List.mem_map]
    rintro ⟨⟨k', v⟩, hkv, rfl⟩
    rw [(hmem k' v).1 hkv] at hm
    cases hm

/-- What happens to the metadata. -/
inductive MetadataEvent where
  | stored (entry : MetadataEntry)
  | deleted

namespace MetadataEvent

/-- The event has a say in what is held under a key. -/
def concerns (key : String) : MetadataEvent → Bool
  | .stored entry => entry.key == key
  | .deleted => true

/-- The metadata after an event. -/
def apply (m : Std.ExtTreeMap String String) : MetadataEvent → Std.ExtTreeMap String String
  | .stored entry => m.insert entry.key entry.value
  | .deleted => ∅

end MetadataEvent

/-- The event that a request and the reply to it tell of: an entry was stored if the reply has the
status 201, and everything was deleted if it has the status 200. -/
def event? (r : ClientRequest) (reply : Reply) : Option MetadataEvent :=
  if r.uri.path = "/api/metadata" then
    if r.method = "PUT" ∧ reply.status = 201 then
      match r.body with
      | .ok body => (Json.decode MetadataEntry.ofTree body).toOption.map .stored
      | .error _ => none
    else if r.method = "DELETE" ∧ reply.status = 200 then some .deleted
    else none
  else none

/-- What was stored last under a key since everything was deleted last, the metadata having been
`m` in the beginning. -/
def lastValue (m : Std.ExtTreeMap String String) (key : String) (events : List MetadataEvent) :
    Option String :=
  match events.findRev? (·.concerns key) with
  | some (.stored entry) => some entry.value
  | some .deleted => none
  | none => m[key]?

/-- The first event can be applied beforehand. -/
theorem lastValue_cons (m : Std.ExtTreeMap String String) (key : String) (event : MetadataEvent)
    (events : List MetadataEvent) :
    lastValue m key (event :: events) = lastValue (event.apply m) key events := by
  unfold lastValue
  rw [List.findRev?]
  cases events.findRev? (·.concerns key) with
  | some last => cases last <;> rfl
  | none =>
    cases event with
    | deleted => simp [MetadataEvent.concerns, MetadataEvent.apply]
    | stored entry =>
      by_cases hkey : entry.key = key <;>
        simp [MetadataEvent.concerns, MetadataEvent.apply, Std.ExtTreeMap.getElem?_insert, hkey]

/-! ### Sequences of requests -/

/-- The engine after requests have been answered one after the other. -/
def run : Engine → List ClientRequest → Engine
  | e, [] => e
  | e, r :: rest => run (answer e r).2 rest

/-- What happens to the metadata when requests are answered one after the other. -/
def events : Engine → List ClientRequest → List MetadataEvent
  | _, [] => []
  | e, r :: rest => (event? r (answer e r).1).toList ++ events (answer e r).2 rest

section Answered

variable {e e' : Engine} {r : ClientRequest} {reply : Reply}

/-- Caches that answer go on answering. -/
theorem Answered.sound (h : Answered e r reply e') (hrequests : e.requests.Sound)
    (hmetadata : e.metadata.Sound) : e'.requests.Sound ∧ e'.metadata.Sound := by
  cases h with
  | imported hmethod hpath hstatus a => exact ⟨Change.sound_foldl hrequests _, hmetadata⟩
  | stateChanged hmethod hpath hstatus hbody hread hchanged hreply =>
    rw [hchanged.frame]
    exact ⟨hrequests, hmetadata⟩
  | _ => exact ⟨hrequests, hmetadata⟩

/-- The event of a request that concerns something else, fails or only looks. -/
theorem event?_eq_none (h : r.uri.path ≠ "/api/metadata" ∨ 400 ≤ reply.status ∨
    r.method ≠ "PUT" ∧ r.method ≠ "DELETE") : event? r reply = none := by
  unfold event?
  rcases h with hpath | hstatus | ⟨hput, hdelete⟩
  · rw [if_neg hpath]
  · obtain ⟨h200, h201⟩ := status_ne_of_failed hstatus
    simp [h200, h201]
  · simp [hput, hdelete]

/-- **One request.** What becomes of the metadata is told by the request and the reply. -/
theorem Answered.metadata (h : Answered e r reply e') :
    match event? r reply with
    | none => e'.metadata = e.metadata
    | some (.stored entry) => e'.metadata = { e.metadata with
        backing := e.metadata.backing.set (Bytes.ofText entry.key) (Bytes.ofText entry.value) }
    | some .deleted => e'.metadata = { e.metadata with backing := e.metadata.backing.clear } := by
  cases h with
  | looked hmethod =>
    -- looking is not among the methods of an event
    have hnone : event? r reply = none :=
      event?_eq_none (.inr (.inr (by rcases hmethod with h | h | h <;> simp [h])))
    rw [hnone]
  | failed hstatus => rw [event?_eq_none (.inr (.inl hstatus))]
  | imported hmethod hpath => rw [event?_eq_none (.inl (by simp [hpath]))]
  | recordsDeleted hmethod hpath => rw [event?_eq_none (.inl (by simp [hpath]))]
  | stateChanged hmethod hpath hstatus hbody hread hchanged hreply =>
    -- the frame of a change leaves the metadata
    rw [event?_eq_none (.inl (by simp [hpath])), hchanged.frame]
  | @metadataStored body entry hmethod hpath hstatus hbody hread =>
    have hevent : event? r reply = some (.stored entry) := by
      simp [event?, hpath, hmethod, hstatus, hbody, hread, Except.toOption]
    rw [hevent]
  | metadataDeleted hmethod hpath hstatus =>
    have hevent : event? r reply = some .deleted := by simp [event?, hpath, hmethod, hstatus]
    rw [hevent]

/-- Metadata that are texts stay so, and those that are deleted become so. -/
theorem Answered.textual (h : Answered e r reply e') {m : Std.ExtTreeMap String String}
    (hm : Textual e.metadata m ∨ event? r reply = some .deleted) :
    Textual e'.metadata ((event? r reply).elim m (MetadataEvent.apply m)) := by
  have hmetadata := h.metadata
  -- only an event touches the metadata: one value is put in, or all are gone
  cases hevent : event? r reply with
  | none =>
    rw [hevent] at hmetadata hm
    rw [hmetadata]
    simpa using hm
  | some event =>
    rw [hevent] at hmetadata hm
    cases event with
    | stored entry =>
      rw [hmetadata]
      exact Textual.stored (by simpa using hm) entry
    | deleted =>
      rw [hmetadata]
      exact textual_of_get?_eq_none fun key => Backing.get?_clear _ key

end Answered

/-- **Any number of requests.** If the metadata were those of `m` in the beginning, or everything
is deleted on the way, then they are texts in the end, and under every key there is what was stored
last. -/
theorem exists_textual_run {e : Engine} (hrequests : e.requests.Sound)
    (hmetadata : e.metadata.Sound) (m : Std.ExtTreeMap String String) (rs : List ClientRequest)
    (h : Textual e.metadata m ∨ .deleted ∈ events e rs) :
    (run e rs).requests.Sound ∧ (run e rs).metadata.Sound ∧
      ∃ m', Textual (run e rs).metadata m' ∧ ∀ key, m'[key]? = lastValue m key (events e rs) := by
  induction rs generalizing e m with
  | nil =>
    have hm : Textual e.metadata m := by simpa [events] using h
    exact ⟨hrequests, hmetadata, m, hm, fun key => rfl⟩
  | cons r rs ih =>
    have hanswered := answer_answered e r
    obtain ⟨hrequests', hmetadata'⟩ := hanswered.sound hrequests hmetadata
    -- the first request makes `m₁` of `m`, and the others go on from there
    let m₁ := (event? r (answer e r).1).elim m (MetadataEvent.apply m)
    have hlast : ∀ key, lastValue m key (events e (r :: rs)) =
        lastValue m₁ key (events (answer e r).2 rs) := by
      intro key
      simp only [events, m₁]
      cases event? r (answer e r).1 with
      | none => rfl
      | some event => exact lastValue_cons m key event _
    have h₁ : Textual (answer e r).2.metadata m₁ ∨ .deleted ∈ events (answer e r).2 rs := by
      -- if nothing is deleted later on, then the metadata are texts after the first request
      by_cases hrest : .deleted ∈ events (answer e r).2 rs
      · exact .inr hrest
      · refine .inl (hanswered.textual (h.imp_right fun hmem => ?_))
        simpa [events, hrest] using hmem
    obtain ⟨hsound, hsound', m', hm', hvalue⟩ := ih hrequests' hmetadata' m₁ h₁
    exact ⟨hsound, hsound', m', hm', fun key => by rw [hvalue, hlast]⟩

end ReplayProxy.Admin
