import ReplayProxy.Proofs.Engine.Answers

/-!
# What actions do to the records

An engine is used by a sequence of *actions* (`Engine.Action`): requests to answer, changes of
the mode and of the destination, imports, deletions and changes of the metadata. Most of them
leave the records alone. What an action does to them is said by a list of changes
(`Engine.changes`), which depends on the world only through what was answered.

Main statements:

* `Engine.act_follows`: the requests cache after an action is the one before it with the
  changes of the action applied in order.
* `Engine.canonical_of_stored`: whatever an action stores has canonical headers, the request's
  provided that the request had them when it came.

So a property of the records holds after any sequence of actions as soon as single changes
keep it.
-/

namespace ReplayProxy.Engine

/-! ### Imports -/

/-- The changes that come of an archive. -/
def imported (a : Archive) : List Change :=
  match Import.prepare a with
  | .ok (entries, _) => entries.map fun entry => .stored entry.2
  | .error _ => []

/-- An entry of an archive is stored under the fingerprint of its request, and its headers are
canonical. -/
theorem entry_spec {f : ExchangeForm} {key : String} {x : Exchange}
    (h : Import.entry f = .ok (key, x)) : key = x.request.fingerprint ∧ x.Canonical := by
  obtain ⟨x₀, hx₀, h⟩ := bind_eq_ok_iff.1 h
  cases h
  have hcanonical := ExchangeForm.canonical_of_exchange hx₀
  refine ⟨rfl, ?_, hcanonical.response⟩
  -- the request may have got a content type, which goes in under its canonical name
  show (Import.fillContentType x₀.request).headers.Canonical
  unfold Import.fillContentType
  split
  · exact hcanonical.request
  · exact hcanonical.request.add _ _

theorem entries_spec {forms : List ExchangeForm} {key : String} {x : Exchange}
    (h : (key, x) ∈ (Import.entries forms).1) : key = x.request.fingerprint ∧ x.Canonical := by
  induction forms with
  | nil => simp [Import.entries] at h
  | cons f forms ih =>
    rw [Import.entries] at h
    cases hentry : Import.entry f with
    | error err => exact ih (by simpa only [hentry] using h)
    | ok entry =>
      rcases List.mem_cons.1 (by simpa only [hentry] using h) with rfl | h
      · exact entry_spec hentry
      · exact ih h

/-- Storing exchanges one after the other, each under its fingerprint, applies the changes. -/
theorem storeAll_eq_foldl {entries : List (String × Exchange)}
    (h : ∀ entry ∈ entries, entry.1 = entry.2.request.fingerprint) (c : Cache) :
    (storeAll c entries).1 =
      (entries.map fun entry => Change.stored entry.2).foldl Change.apply c := by
  induction entries generalizing c with
  | nil => rfl
  | cons entry entries ih =>
    -- a refused exchange is passed over, just as a refused change leaves the cache
    obtain ⟨key, x⟩ := entry
    obtain rfl : key = x.request.fingerprint := h (key, x) List.mem_cons_self
    rw [List.map_cons, List.foldl_cons, ← ih (fun other hother => h other (by simp [hother])),
      storeAll, Change.apply, record, Request.key]
    cases c.set (Bytes.ofText x.request.fingerprint) x.encode <;> rfl

theorem prepare_eq_ok {a : Archive} {entries : List (String × Exchange)} {failed : Nat}
    (h : Import.prepare a = .ok (entries, failed)) : entries = (Import.entries a.data).1 := by
  unfold Import.prepare at h
  split at h
  · cases h
  · rw [Except.ok.inj h]

theorem importArchive_eq_ok {e e' : Engine} {a : Archive} {n : Nat}
    (h : e.importArchive a = .ok (n, e')) :
    e' = { e with requests := (imported a).foldl Change.apply e.requests } := by
  obtain ⟨⟨entries, failed⟩, hprepare, h⟩ := bind_eq_ok_iff.1 h
  cases h
  have hentries : ∀ entry ∈ entries, entry.1 = entry.2.request.fingerprint := by
    intro entry hentry
    rw [prepare_eq_ok hprepare] at hentry
    exact (entries_spec hentry).1
  simp only [imported, hprepare, storeAll_eq_foldl hentries]

theorem canonical_of_imported {a : Archive} {x : Exchange} (h : .stored x ∈ imported a) :
    x.Canonical := by
  unfold imported at h
  split at h
  · next hprepare =>
    obtain ⟨entry, hentry, hx⟩ := List.mem_map.1 h
    rw [prepare_eq_ok hprepare] at hentry
    cases hx
    exact (entries_spec hentry).2
  · simp at h

/-- Reads the archive at a location. -/
def archiveAt (files : FileTree) (s : Surroundings σ) (location : String) :
    StateM σ (Except ProxyError Archive) := do
  match ImportSource.parse files location with
  | .error err => return .error err
  | .ok source => source.load files s

theorem importFrom_apply (e : Engine) (files : FileTree) (s : Surroundings σ)
    (location : String) (w : σ) :
    (e.importFrom files s location w).1 =
      (archiveAt files s location w).1 >>= e.importArchive := by
  unfold importFrom archiveAt
  cases ImportSource.parse files location with
  | error err => rfl
  | ok source =>
    simp only [bind_apply]
    cases (source.load files s w).1 <;> rfl

/-! ### Actions -/

/-- What can be done with an engine. The files that an import finds come with it. -/
inductive Action where
  | process (r : Request)
  | setMode (m : Mode)
  | setDestination (text : String)
  | importArchive (a : Archive)
  | importFrom (files : FileTree) (location : String)
  | deleteRecords
  | setMetadata (key value : String)
  | deleteMetadata

/-- The engine after an operation that may fail; one that fails leaves it as it was. -/
def kept (e : Engine) : Except ProxyError Engine → Engine
  | .ok e' => e'
  | .error _ => e

/-- The engine after an action. -/
def act (s : Surroundings σ) (e : Engine) : Action → StateM σ Engine
  | .process r => do return (← e.process s r).2
  | .setMode m => return e.kept (e.setMode m)
  | .setDestination text => return e.kept (e.setDestination text)
  | .importArchive a => return e.kept ((e.importArchive a).map Prod.snd)
  | .importFrom files location => do
    return e.kept ((← e.importFrom files s location).map Prod.snd)
  | .deleteRecords => return e.kept e.deleteRecords
  | .setMetadata key value => return e.kept (e.setMetadata key value)
  | .deleteMetadata => return e.kept e.deleteMetadata

/-- The changes that come of an action in a state of the world. -/
def changes (s : Surroundings σ) (e : Engine) (w : σ) : Action → List Change
  | .process r => e.recorded s.outside r w
  | .importArchive a => imported a
  | .importFrom files location =>
    match (archiveAt files s location w).1 with
    | .ok a => imported a
    | .error _ => []
  | .deleteRecords => [.cleared]
  | .setMode _ | .setDestination _ | .setMetadata _ _ | .deleteMetadata => []

theorem stored_eq_ok_iff {x : Except StorageError α} {a : α} : stored x = .ok a ↔ x = .ok a := by
  cases x <;> simp [stored]

/-- An operation on one cache succeeds when the cache answers, and then its result is put into
the engine. -/
theorem stored_answer_bind_eq_ok_iff {c : Cache} {op : Operation} {a : α} {f : α → Engine}
    {e' : Engine} : (stored (c.answer op a) >>= fun a => pure (f a)) = .ok e' ↔
      c.faults op = none ∧ e' = f a := by
  rw [bind_eq_ok_iff]
  constructor
  · rintro ⟨b, hstored, h⟩
    obtain ⟨hfault, rfl⟩ := Cache.answer_eq_ok_iff.1 (stored_eq_ok_iff.1 hstored)
    cases h
    exact ⟨hfault, rfl⟩
  · rintro ⟨hfault, rfl⟩
    exact ⟨a, stored_eq_ok_iff.2 (Cache.answer_eq_ok_iff.2 ⟨hfault, rfl⟩), rfl⟩

theorem deleteRecords_eq_ok_iff {e e' : Engine} :
    e.deleteRecords = .ok e' ↔ e.requests.faults .clear = none ∧
      e' = { e with requests := { e.requests with backing := e.requests.backing.clear } } :=
  stored_answer_bind_eq_ok_iff

theorem deleteMetadata_eq_ok_iff {e e' : Engine} :
    e.deleteMetadata = .ok e' ↔ e.metadata.faults .clear = none ∧
      e' = { e with metadata := { e.metadata with backing := e.metadata.backing.clear } } :=
  stored_answer_bind_eq_ok_iff

theorem setMetadata_eq_ok_iff {e e' : Engine} {key value : String} :
    e.setMetadata key value = .ok e' ↔ ¬key.isEmpty = true ∧ e.metadata.faults .set = none ∧
      e' = { e with metadata := { e.metadata with
        backing := e.metadata.backing.set (Bytes.ofText key) (Bytes.ofText value) } } := by
  unfold setMetadata
  by_cases hkey : key.isEmpty = true
  · simp [hkey, throw, throwThe, MonadExceptOf.throw]
  · rw [if_neg hkey, and_iff_right hkey]
    exact stored_answer_bind_eq_ok_iff

/-- What the changes of an action leave of an engine. -/
structure Follows (e : Engine) (changes : List Change) (e' : Engine) : Prop where
  requests : e'.requests = changes.foldl Change.apply e.requests
  transform : e'.transform = e.transform
  /-- The metadata stay on their medium. -/
  metadata : e'.metadata.faults = e.metadata.faults ∧
    e'.metadata.backing.isTable = e.metadata.backing.isTable

theorem Follows.refl (e : Engine) : Follows e [] e := ⟨rfl, rfl, rfl, rfl⟩

/-- Another cache of metadata on the same medium. -/
theorem Follows.withMetadata (e : Engine) {c : Cache} (hfaults : c.faults = e.metadata.faults)
    (htable : c.backing.isTable = e.metadata.backing.isTable) :
    Follows e [] { e with metadata := c } := ⟨rfl, rfl, hfaults, htable⟩

/-- An operation that changes no records, whether it fails or not. -/
theorem follows_kept {e : Engine} {result : Except ProxyError Engine}
    (h : ∀ e', result = .ok e' → Follows e [] e') : Follows e [] (e.kept result) := by
  cases result with
  | ok e' => exact h e' rfl
  | error err => exact .refl e

theorem follows_kept_import (e : Engine) (a : Archive) :
    Follows e (imported a) (e.kept ((e.importArchive a).map Prod.snd)) := by
  cases himport : e.importArchive a with
  | ok result =>
    obtain ⟨n, e'⟩ := result
    obtain rfl := importArchive_eq_ok himport
    exact ⟨rfl, rfl, rfl, rfl⟩
  | error err =>
    -- an archive that is refused has no entries to store
    have hnone : imported a = [] := by
      unfold imported
      cases hprepare : Import.prepare a with
      | error _ => rfl
      | ok entries => simp [importArchive, hprepare] at himport
    rw [hnone]
    exact .refl e

/-- **Actions follow their changes.** The records after an action are those before it with
the changes applied in order; transform and medium stay. -/
theorem act_follows (s : Surroundings σ) (e : Engine) (a : Action) (w : σ) :
    Follows e (changes s e w a) (act s e a w).1 := by
  cases a with
  | process r =>
    simp only [act, bind_apply, pure_apply, process, changes]
    rw [answer_engine]
    exact ⟨rfl, rfl, rfl, rfl⟩
  -- what is checked before the mode or the destination is set does not show in the engine
  | setMode m =>
    refine follows_kept fun e' h => ?_
    obtain ⟨_, -, h⟩ := bind_eq_ok_iff.1 h
    cases h
    exact ⟨rfl, rfl, rfl, rfl⟩
  | setDestination text =>
    refine follows_kept fun e' h => ?_
    obtain ⟨_, -, h⟩ := bind_eq_ok_iff.1 h
    cases h
    exact ⟨rfl, rfl, rfl, rfl⟩
  | importArchive a => exact follows_kept_import e a
  | importFrom files location =>
    simp only [act, bind_apply, pure_apply, changes]
    rw [importFrom_apply]
    cases (archiveAt files s location w).1 with
    | error err => exact .refl e
    | ok a => exact follows_kept_import e a
  | deleteRecords =>
    -- the change is refused whenever the action is
    simp only [act, pure_apply, changes, deleteRecords]
    cases hclear : e.requests.clear with
    | ok c => exact ⟨by simp [kept, stored, Change.apply, hclear], rfl, rfl, rfl⟩
    | error err => exact ⟨by simp [kept, stored, Change.apply, hclear], rfl, rfl, rfl⟩
  | setMetadata key value =>
    refine follows_kept fun e' h => ?_
    obtain ⟨-, -, rfl⟩ := setMetadata_eq_ok_iff.1 h
    exact .withMetadata e rfl (Backing.isTable_set _ _ _)
  | deleteMetadata =>
    refine follows_kept fun e' h => ?_
    obtain ⟨-, rfl⟩ := deleteMetadata_eq_ok_iff.1 h
    exact .withMetadata e rfl (Backing.isTable_clear _)

/-- The headers of a request to answer are canonical. -/
def Action.Canonical : Action → Prop
  | .process r => r.headers.Canonical
  | _ => True

/-- **What is stored is canonical.** The response of an exchange that an action stores has
canonical headers, and so has the request if it came with them. -/
theorem canonical_of_stored {s : Surroundings σ} {e : Engine} {a : Action} {w : σ} {x : Exchange}
    (h : .stored x ∈ changes s e w a) :
    x.response.headers.Canonical ∧ (a.Canonical → x.request.headers.Canonical) := by
  -- two kinds of actions store: requests that are captured, and imports
  cases a with
  | process r =>
    simp only [changes, recorded] at h
    split at h
    · cases hcaptured : (e.captured s.outside r w).1 with
      | none => simp [hcaptured, recordings] at h
      | some response =>
        simp only [hcaptured, recordings, List.mem_singleton, Change.stored.injEq] at h
        subst h
        exact ⟨canonical_of_captured hcaptured, id⟩
    · simp at h
  | importArchive a =>
    have hx := canonical_of_imported h
    exact ⟨hx.response, fun _ => hx.request⟩
  -- a location that cannot be read stores nothing
  | importFrom files location =>
    simp only [changes] at h
    split at h
    · have hx := canonical_of_imported h
      exact ⟨hx.response, fun _ => hx.request⟩
    · simp at h
  | deleteRecords => simp [changes] at h
  | setMode m => simp [changes] at h
  | setDestination text => simp [changes] at h
  | setMetadata key value => simp [changes] at h
  | deleteMetadata => simp [changes] at h

end ReplayProxy.Engine
