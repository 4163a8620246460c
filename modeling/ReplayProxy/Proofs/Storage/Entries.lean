import ReplayProxy.Storage.Cache

/-!
# What a cache holds

Seen through `Backing.get?`, a cache is a map from byte strings to byte strings, whatever
keeps its entries: `get?_set`, `get?_delete` and `get?_clear` say what each change does to
the map. The enumeration is that map written out. An entry is listed exactly when it is
held (`mem_entries_iff`), the keys are listed in strictly increasing order
(`entries_ordered`), and the count is the number of entries (`count_eq_length`).

A cache that is sound gives the answer of its map (`Cache.set_of_sound` and its kin). One
that is not may refuse, but never gives another answer.
-/

namespace ReplayProxy

/-! ### Rows of a table -/

namespace Table

theorem find?_upsertRows (key value k : Bytes) (rows : List (Bytes × Bytes)) :
    ((upsertRows key value rows).find? fun row => row.1 == k).map Prod.snd =
      if key = k then some value else (rows.find? fun row => row.1 == k).map Prod.snd := by
  induction rows with
  | nil => by_cases h : key = k <;> simp [upsertRows, h]
  | cons row rows ih =>
    obtain ⟨k', v⟩ := row
    -- the row that is replaced is the first one with the key, and the search finds it first
    by_cases hkey : k' = key
    · subst hkey
      by_cases h : k' = k <;> simp [upsertRows, h]
    · by_cases h : k' = k
      · subst h
        simp [upsertRows, hkey, Ne.symm hkey]
      · simpa [upsertRows, hkey, h] using ih

theorem select?_upsert (t : Table) (key value k : Bytes) :
    (t.upsert key value).select? k = if key = k then some value else t.select? k :=
  find?_upsertRows key value k t.rows

/-- Since keys are distinct, the row that is found is the only one with its key. -/
theorem select?_eq_some_iff {t : Table} {key value : Bytes} :
    t.select? key = some value ↔ (key, value) ∈ t.rows := by
  obtain ⟨rows, hdistinct⟩ := t
  unfold select?
  -- the induction is on the rows, and the rest of distinct rows is distinct
  induction rows with
  | nil => simp
  | cons row rows ih =>
    obtain ⟨k, v⟩ := row
    obtain ⟨hhead, htail⟩ := List.nodup_cons.1 hdistinct
    by_cases h : k = key
    · subst h
      have hnot : (k, value) ∉ rows := fun hmem =>
        hhead (List.mem_map.2 ⟨(k, value), hmem, rfl⟩)
      simp [hnot, eq_comm]
    · simpa [h, Ne.symm h] using ih htail

theorem select?_delete (t : Table) (key k : Bytes) :
    (t.delete key).select? k = if key = k then none else t.select? k := by
  -- what is found is what is in the table, and removing rows is a filter
  refine Option.ext fun v => ?_
  rw [select?_eq_some_iff, delete, List.mem_filter]
  by_cases h : key = k
  · simp [h]
  · simp [h, Ne.symm h, select?_eq_some_iff]

theorem mem_sorted {t : Table} {row : Bytes × Bytes} : row ∈ t.sorted ↔ row ∈ t.rows :=
  List.mem_mergeSort

/-- Sorted rows have strictly increasing keys. -/
theorem sorted_ordered (t : Table) : t.sorted.Pairwise fun a b => compare a.1 b.1 = .lt := by
  -- sorting gives weak order, and distinct keys make it strict
  have hle : t.sorted.Pairwise fun a b => (compare a.1 b.1).isLE := by
    refine List.pairwise_mergeSort (fun a b c hab hbc => ?_) (fun a b => ?_) t.rows
    · exact Std.TransCmp.isLE_trans hab hbc
    · have hswap : compare b.1 a.1 = (compare a.1 b.1).swap := Std.OrientedOrd.eq_swap
      rw [hswap]
      cases compare a.1 b.1 <;> decide
  have hne : t.sorted.Pairwise fun a b => a.1 ≠ b.1 := by
    have hperm : (t.sorted.map Prod.fst).Perm (t.rows.map Prod.fst) :=
      (List.mergeSort_perm t.rows _).map Prod.fst
    exact List.pairwise_map.1 (hperm.nodup_iff.2 t.distinct)
  refine hle.imp₂ (fun a b hab hne => ?_) hne
  have hneq : compare a.1 b.1 ≠ .eq := fun h => hne (Std.LawfulEqCmp.eq_of_compare h)
  revert hab hneq
  cases compare a.1 b.1 <;> decide

end Table

/-! ### Entries of a backing -/

namespace Backing

theorem get?_set (b : Backing) (key value k : Bytes) :
    (b.set key value).get? k = if key = k then some value else b.get? k := by
  cases b with
  | memory m =>
    simp only [set, get?, Std.ExtTreeMap.getElem?_insert]
    by_cases h : key = k <;> simp [h]
  | table t => exact t.select?_upsert key value k

theorem get?_delete (b : Backing) (key k : Bytes) :
    (b.delete key).get? k = if key = k then none else b.get? k := by
  cases b with
  | memory m =>
    simp only [delete, get?, Std.ExtTreeMap.getElem?_erase]
    by_cases h : key = k <;> simp [h]
  | table t => exact t.select?_delete key k

@[simp] theorem get?_clear (b : Backing) (k : Bytes) : b.clear.get? k = none := by
  cases b with
  | memory m => simp [clear, get?]
  | table t => rfl

/-- An entry is listed exactly when it is held. -/
theorem mem_entries_iff {b : Backing} {key value : Bytes} :
    (key, value) ∈ b.entries ↔ b.get? key = some value := by
  cases b with
  | memory m => exact Std.ExtTreeMap.mem_toList_iff_getElem?_eq_some
  | table t => exact Table.mem_sorted.trans Table.select?_eq_some_iff.symm

/-- Entries are listed in strictly increasing order of their keys. -/
theorem entries_ordered (b : Backing) :
    b.entries.Pairwise fun a b => compare a.1 b.1 = .lt := by
  cases b with
  | memory m => exact Std.ExtTreeMap.ordered_keys_toList
  | table t => exact t.sorted_ordered

theorem count_eq_length (b : Backing) : b.count = b.entries.length := by
  cases b with
  | memory m => exact Std.ExtTreeMap.length_toList.symm
  | table t => exact (List.length_mergeSort t.rows).symm

/-- Whether the entries are kept in a table. -/
def isTable : Backing → Bool
  | .memory _ => false
  | .table _ => true

@[simp] theorem isTable_set (b : Backing) (key value : Bytes) :
    (b.set key value).isTable = b.isTable := by
  cases b <;> rfl

@[simp] theorem isTable_clear (b : Backing) : b.clear.isTable = b.isTable := by
  cases b <;> rfl

end Backing

/-! ### Answers of a sound cache -/

namespace Cache

theorem answer_of_sound {c : Cache} (h : c.Sound) (op : Operation) (a : α) :
    c.answer op a = .ok a := by
  rw [answer, h op]

theorem set_of_sound {c : Cache} (h : c.Sound) (key value : Bytes) :
    c.set key value = .ok { c with backing := c.backing.set key value } :=
  answer_of_sound h _ _

theorem clear_of_sound {c : Cache} (h : c.Sound) :
    c.clear = .ok { c with backing := c.backing.clear } :=
  answer_of_sound h _ _

theorem values_of_sound {c : Cache} (h : c.Sound) :
    c.values = .ok (c.backing.entries.map Prod.snd) :=
  answer_of_sound h _ _

theorem count_of_sound {c : Cache} (h : c.Sound) : c.count = .ok c.backing.count :=
  answer_of_sound h _ _

theorem get_of_sound {c : Cache} (h : c.Sound) (key : Bytes) :
    c.get key =
      match c.backing.get? key with
      | some v => .ok v
      | none => .error (.notFound key) := by
  rw [get, answer_of_sound h]
  cases c.backing.get? key <;> rfl

/-- An answer that is given is the answer of the map. -/
theorem answer_eq_ok_iff {c : Cache} {op : Operation} {a b : α} :
    c.answer op a = .ok b ↔ c.faults op = none ∧ a = b := by
  unfold answer
  cases c.faults op <;> simp

/-- A sound cache over a table is determined by the table. -/
theorem eq_table {c : Cache} (h : c.Sound) (htable : c.backing.isTable = true) :
    ∃ t : Table, c = { backing := .table t } := by
  obtain ⟨backing, faults⟩ := c
  obtain rfl : faults = fun _ => none := funext h
  cases backing with
  | memory m => cases htable
  | table t => exact ⟨t, rfl⟩

end Cache

end ReplayProxy
