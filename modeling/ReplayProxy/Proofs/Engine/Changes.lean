import ReplayProxy.Engine
import ReplayProxy.Proofs.Storage.Entries

/-!
# Changes of the records

The records of an engine change in two ways: an exchange is stored under the fingerprint of
its request, or everything is cleared. A *change* says which. Changes are ghosts: they are read
off what an engine does, and no part of the engine depends on them.

A cache may refuse a change, and then stays as it was; a change that is not refused is made
wholly (`Change.apply_eq_or`). All else about changes follows from that one case distinction.
They leave the medium of a cache (`Change.faults_apply`, `Change.isTable_apply`), and a change
that spares a key leaves what is held under it (`Change.get?_apply_of_spares`).
-/

namespace ReplayProxy

/-- What can happen to the records. -/
inductive Change where
  /-- An exchange is stored under the fingerprint of its request. -/
  | stored (x : Exchange)
  /-- Everything is removed. -/
  | cleared

namespace Change

/-- The cache after a change; a cache that refuses stays as it is. -/
def apply (c : Cache) : Change → Cache
  | .stored x => Engine.record c x.request.key x
  | .cleared =>
    match c.clear with
    | .ok c => c
    | .error _ => c

/-- What a change that is not refused does to the entries. -/
def onBacking (b : Backing) : Change → Backing
  | .stored x => b.set x.request.key x.encode
  | .cleared => b.clear

/-- The change leaves what is held under a key. -/
def Spares (key : Bytes) : Change → Prop
  | .stored x => x.request.key ≠ key
  | .cleared => False

/-- A change is refused, or it is made wholly. -/
theorem apply_eq_or (c : Cache) (change : Change) :
    change.apply c = c ∨ change.apply c = { c with backing := change.onBacking c.backing } := by
  cases change with
  -- a cache fails before it touches its entries, or not at all
  | stored x =>
    rw [apply, Engine.record, Cache.set, Cache.answer]
    cases c.faults .set with
    | none => exact .inr rfl
    | some err => exact .inl rfl
  | cleared =>
    rw [apply, Cache.clear, Cache.answer]
    cases c.faults .clear with
    | none => exact .inr rfl
    | some err => exact .inl rfl

/-- A sound cache refuses no change. -/
theorem apply_of_sound {c : Cache} (h : c.Sound) (change : Change) :
    change.apply c = { c with backing := change.onBacking c.backing } := by
  cases change with
  | stored x => rw [apply, Engine.record, Cache.set_of_sound h, onBacking]
  | cleared => rw [apply, Cache.clear_of_sound h, onBacking]

@[simp] theorem faults_apply (c : Cache) (change : Change) :
    (change.apply c).faults = c.faults := by
  rcases apply_eq_or c change with h | h <;> rw [h]

theorem isTable_apply (c : Cache) (change : Change) :
    (change.apply c).backing.isTable = c.backing.isTable := by
  rcases apply_eq_or c change with h | h <;> rw [h]
  cases change with
  | stored x => exact Backing.isTable_set _ _ _
  | cleared => exact Backing.isTable_clear _

theorem sound_apply {c : Cache} (h : c.Sound) (change : Change) : (change.apply c).Sound := by
  intro op
  rw [faults_apply]
  exact h op

theorem get?_apply_of_spares {c : Cache} {key : Bytes} {change : Change}
    (h : change.Spares key) : (change.apply c).backing.get? key = c.backing.get? key := by
  rcases apply_eq_or c change with happly | happly <;> rw [happly]
  cases change with
  | stored x =>
    have hne : x.request.key ≠ key := h
    rw [onBacking, Backing.get?_set, if_neg hne]
  | cleared => exact h.elim

theorem get?_foldl_of_spares {changes : List Change} {key : Bytes}
    (h : ∀ change ∈ changes, change.Spares key) (c : Cache) :
    (changes.foldl apply c).backing.get? key = c.backing.get? key := by
  -- the first change comes first, so the cache varies along the induction
  induction changes generalizing c with
  | nil => rfl
  | cons change changes ih =>
    rw [List.foldl_cons, ih (fun other hother => h other (by simp [hother])),
      get?_apply_of_spares (h change (by simp))]

theorem isTable_foldl (c : Cache) (changes : List Change) :
    (changes.foldl apply c).backing.isTable = c.backing.isTable := by
  induction changes generalizing c with
  | nil => rfl
  | cons change changes ih => rw [List.foldl_cons, ih, isTable_apply]

theorem sound_foldl {c : Cache} (h : c.Sound) (changes : List Change) :
    (changes.foldl apply c).Sound := by
  induction changes generalizing c with
  | nil => exact h
  | cons change changes ih => exact ih (sound_apply h change)

end Change

end ReplayProxy
