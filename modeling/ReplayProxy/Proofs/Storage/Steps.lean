import ReplayProxy.Proofs.Storage.Entries

/-!
# What a cache answers

A cache is used step by step: values are set, read, removed and enumerated (`Cache.Step`). This
file says what the answers have to be, and without any cache. All that matters about the steps
before is, for each key, the value that was set last since the key was deleted or everything was
cleared (`Cache.lastSet`). This is a map of byte strings, and `Cache.AnswerOf` says what such a
map answers to a step. Enumerations are answered by the one list that writes the map out in the
order of the keys (`Cache.Lists`), so that a step has one answer only (`Cache.AnswerOf.unique`).

Main statement:

* `Cache.answerOf_after`: a sound cache that was empty gives the answers of the values set last,
  whatever keeps its entries.

For caches that keep their entries differently, equality of their answers needs no proof of its
own: both answer as the map does.
-/

namespace ReplayProxy

/-- The enumerations are ordered byte by byte, and a key comes before those that it begins. -/
theorem Bytes.compare_eq_lt_iff {a b : Bytes} : compare a b = .lt ↔ a < b := by
  induction a generalizing b with
  | nil => cases b <;> simp [List.compare_nil_cons]
  | cons x a ih =>
    cases b with
    | nil => simp [List.compare_cons_nil]
    | cons y b =>
      -- the first bytes decide unless they are equal
      rw [List.compare_cons_cons, Ordering.then_eq_lt, ih, List.cons_lt_cons_iff, Std.compare_eq_lt,
        Std.LawfulEqCmp.compare_eq_iff_eq]

namespace Cache

/-! ### Steps -/

/-- What can be asked of a cache. -/
inductive Step where
  | set (key value : Bytes)
  | get (key : Bytes)
  | values
  | entries
  | count
  | delete (key : Bytes)
  | clear
  | keys

/-- What a cache answers. -/
inductive Answer where
  /-- The cache was changed as it was asked to be. -/
  | done
  | value (value : Bytes)
  | values (values : List Bytes)
  | entries (entries : List (Bytes × Bytes))
  | count (n : Nat)
  | keys (keys : List Bytes)
  deriving DecidableEq

/-- The answer to a change of the cache, and the cache after it; a change that fails leaves it. -/
def changed (c : Cache) : Except StorageError Cache → Except StorageError Answer × Cache
  | .ok c' => (.ok .done, c')
  | .error err => (.error err, c)

/-- Carries out a step: the answer, and the cache after it. -/
def perform (c : Cache) : Step → Except StorageError Answer × Cache
  | .set key value => c.changed (c.set key value)
  | .get key => ((c.get key).map .value, c)
  | .values => (c.values.map .values, c)
  | .entries => (c.entries.map .entries, c)
  | .count => (c.count.map .count, c)
  | .delete key => c.changed (c.delete key)
  | .clear => c.changed c.clear
  | .keys => (c.keys.map .keys, c)

/-- The cache after steps. -/
def after (c : Cache) (steps : List Step) : Cache :=
  steps.foldl (fun c step => (c.perform step).2) c

/-! ### Maps -/

namespace Step

/-- The step has a say in what is held under a key. -/
def concerns (key : Bytes) : Step → Bool
  | .set key' _ | .delete key' => key' == key
  | .clear => true
  | _ => false

/-- The map after a step. -/
def apply (m : Bytes → Option Bytes) : Step → Bytes → Option Bytes
  | .set key value => fun k => if key = k then some value else m k
  | .delete key => fun k => if key = k then none else m k
  | .clear => fun _ => none
  | _ => m

end Step

/-- The value that was set last under a key since the key was deleted or everything was cleared. If
no step concerns the key, it is what the map `m` had in the beginning. -/
def lastSet (m : Bytes → Option Bytes) (steps : List Step) (key : Bytes) : Option Bytes :=
  match steps.findRev? (·.concerns key) with
  | some (.set _ value) => some value
  | some _ => none
  | none => m key

/-- The first step can be applied beforehand. -/
theorem lastSet_cons (m : Bytes → Option Bytes) (step : Step) (steps : List Step) :
    lastSet m (step :: steps) = lastSet (step.apply m) steps := by
  funext key
  unfold lastSet
  rw [List.findRev?]
  cases steps.findRev? (·.concerns key) with
  | some last => cases last <;> rfl
  | none =>
    -- no later step concerns the key, so the first one decides
    cases step with
    | set key' value => by_cases hkey : key' = key <;> simp [Step.concerns, Step.apply, hkey]
    | delete key' => by_cases hkey : key' = key <;> simp [Step.concerns, Step.apply, hkey]
    | clear => rfl
    | get | values | entries | count | keys => rfl

/-- The list writes the map out: it has every entry once, in increasing order of the keys. -/
structure Lists (m : Bytes → Option Bytes) (l : List (Bytes × Bytes)) : Prop where
  mem_iff : ∀ key value, (key, value) ∈ l ↔ m key = some value
  ordered : l.Pairwise fun a b => a.1 < b.1

/-- A map is written out in one way only. -/
theorem Lists.unique {m : Bytes → Option Bytes} {l l' : List (Bytes × Bytes)} (h : Lists m l)
    (h' : Lists m l') : l = l' := by
  have hnodup : ∀ {l : List (Bytes × Bytes)}, Lists m l → l.Nodup := by
    intro l h
    refine h.ordered.imp fun {a b} hlt heq => ?_
    rw [heq] at hlt
    exact List.lt_irrefl b.1 hlt
  -- both lists have the same entries, and an order without ties leaves one arrangement
  have hperm : l.Perm l' := by
    rw [List.perm_ext_iff_of_nodup (hnodup h) (hnodup h')]
    exact fun entry => (h.mem_iff entry.1 entry.2).trans (h'.mem_iff entry.1 entry.2).symm
  exact hperm.eq_of_pairwise
    (fun a b _ _ hab hba => absurd (List.lt_trans hab hba) (List.lt_irrefl a.1))
    h.ordered h'.ordered

/-- What a map answers to a step. -/
inductive AnswerOf (m : Bytes → Option Bytes) : Step → Except StorageError Answer → Prop
  | set (key value : Bytes) : AnswerOf m (.set key value) (.ok .done)
  | found {key value : Bytes} (h : m key = some value) : AnswerOf m (.get key) (.ok (.value value))
  | missing {key : Bytes} (h : m key = none) : AnswerOf m (.get key) (.error (.notFound key))
  | values {l : List (Bytes × Bytes)} (h : Lists m l) :
    AnswerOf m .values (.ok (.values (l.map Prod.snd)))
  | entries {l : List (Bytes × Bytes)} (h : Lists m l) : AnswerOf m .entries (.ok (.entries l))
  | count {l : List (Bytes × Bytes)} (h : Lists m l) : AnswerOf m .count (.ok (.count l.length))
  | delete (key : Bytes) : AnswerOf m (.delete key) (.ok .done)
  | clear : AnswerOf m .clear (.ok .done)
  | keys {l : List (Bytes × Bytes)} (h : Lists m l) :
    AnswerOf m .keys (.ok (.keys (l.map Prod.fst)))

/-- A step has one answer. -/
theorem AnswerOf.unique {m : Bytes → Option Bytes} {step : Step}
    {answer answer' : Except StorageError Answer} (h : AnswerOf m step answer)
    (h' : AnswerOf m step answer') : answer = answer' := by
  -- a map has a value under a key or has none, so a look-up has one answer too
  cases h with
  | set | delete | clear => cases h'; rfl
  | found h =>
    cases h' with
    | found h' => rw [Option.some.inj (h.symm.trans h')]
    | missing h' => cases h.symm.trans h'
  | missing h =>
    cases h' with
    | found h' => cases h.symm.trans h'
    | missing => rfl
  -- an enumeration is read off the list that writes the map out
  | values h => cases h' with | values h' => rw [h.unique h']
  | entries h => cases h' with | entries h' => rw [h.unique h']
  | count h => cases h' with | count h' => rw [h.unique h']
  | keys h => cases h' with | keys h' => rw [h.unique h']

/-! ### Sound caches -/

section Sound

variable {c : Cache}

theorem delete_of_sound (h : c.Sound) (key : Bytes) :
    c.delete key = .ok { c with backing := c.backing.delete key } :=
  answer_of_sound h _ _

theorem entries_of_sound (h : c.Sound) : c.entries = .ok c.backing.entries := answer_of_sound h _ _

theorem keys_of_sound (h : c.Sound) : c.keys = .ok (c.backing.entries.map Prod.fst) :=
  answer_of_sound h _ _

theorem lists_entries (b : Backing) : Lists b.get? b.entries where
  mem_iff _ _ := Backing.mem_entries_iff
  ordered := b.entries_ordered.imp Bytes.compare_eq_lt_iff.1

/-- A key that is not there can be removed, and that changes nothing. -/
theorem delete_of_absent (h : c.Sound) {key : Bytes} (habsent : c.backing.get? key = none) :
    c.delete key = .ok c := by
  rw [delete_of_sound h]
  obtain ⟨backing, faults⟩ := c
  have hsame : backing.delete key = backing := by
    cases backing with
    | memory m =>
      -- maps are compared key by key
      refine congrArg Backing.memory (Std.ExtTreeMap.ext_getElem? fun k => ?_)
      have hget := Backing.get?_delete (.memory m) key k
      by_cases hkey : key = k
      · rw [if_pos hkey] at hget
        exact hget.trans (hkey ▸ habsent.symm)
      · rwa [if_neg hkey] at hget
    | table t =>
      -- no row has the key, so all rows stay
      have hrows : t.rows.filter (fun row => row.1 != key) = t.rows := by
        refine List.filter_eq_self.2 fun row hrow => ?_
        rw [bne_iff_ne]
        rintro rfl
        have hget := Table.select?_eq_some_iff.2 hrow
        cases (show t.select? row.1 = none from habsent).symm.trans hget
      simp only [Backing.delete, Table.delete, hrows]
  rw [hsame]

/-- **One step.** A sound cache answers what the map of its entries answers, and then holds what
the step leaves of the map. -/
theorem perform_of_sound (h : c.Sound) (step : Step) :
    AnswerOf c.backing.get? step (c.perform step).1 ∧ (c.perform step).2.Sound ∧
      (c.perform step).2.backing.get? = step.apply c.backing.get? := by
  have hlists := lists_entries c.backing
  cases step with
  | set key value =>
    rw [perform, set_of_sound h]
    exact ⟨.set key value, h, funext fun k => Backing.get?_set _ _ _ k⟩
  | delete key =>
    rw [perform, delete_of_sound h]
    exact ⟨.delete key, h, funext fun k => Backing.get?_delete _ _ k⟩
  | clear =>
    rw [perform, clear_of_sound h]
    exact ⟨.clear, h, funext fun k => Backing.get?_clear _ k⟩
  -- the steps that look leave the cache, and their answers are read off its entries
  | get key =>
    rw [perform, get_of_sound h]
    cases hget : c.backing.get? key with
    | some value => exact ⟨.found hget, h, rfl⟩
    | none => exact ⟨.missing hget, h, rfl⟩
  | values =>
    rw [perform, values_of_sound h]
    exact ⟨.values hlists, h, rfl⟩
  | entries =>
    rw [perform, entries_of_sound h]
    exact ⟨.entries hlists, h, rfl⟩
  | count =>
    rw [perform, count_of_sound h, Backing.count_eq_length]
    exact ⟨.count hlists, h, rfl⟩
  | keys =>
    rw [perform, keys_of_sound h]
    exact ⟨.keys hlists, h, rfl⟩

/-- **Any number of steps.** A sound cache stays sound, and holds what was set last. -/
theorem after_of_sound (h : c.Sound) (steps : List Step) :
    (c.after steps).Sound ∧ (c.after steps).backing.get? = lastSet c.backing.get? steps := by
  induction steps generalizing c with
  | nil => exact ⟨h, rfl⟩
  | cons step steps ih =>
    obtain ⟨-, hsound, hget⟩ := perform_of_sound h step
    rw [lastSet_cons, ← hget]
    exact ih hsound

/-- **The answers of a sound cache.** After any steps, the answer to the next one is that of the
values set last. -/
theorem answerOf_after (h : c.Sound) (steps : List Step) (step : Step) :
    AnswerOf (lastSet c.backing.get? steps) step ((c.after steps).perform step).1 := by
  obtain ⟨hsound, hget⟩ := after_of_sound h steps
  rw [← hget]
  exact (perform_of_sound hsound step).1

/-- A key that was not set can be removed after the steps, and that changes nothing. -/
theorem delete_after_of_absent (h : c.Sound) {steps : List Step} {key : Bytes}
    (habsent : lastSet c.backing.get? steps key = none) :
    (c.after steps).perform (.delete key) = (.ok .done, c.after steps) := by
  obtain ⟨hsound, hget⟩ := after_of_sound h steps
  rw [perform, delete_of_absent hsound ((congrFun hget key).trans habsent)]
  rfl

end Sound

end Cache

end ReplayProxy
