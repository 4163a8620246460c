import ReplayProxy.Text.Bytes
import Std.Data.ExtTreeMap

/-!
# Tables

A table of a relational database with a key column and a value column, both byte strings.
Rows are kept in the order of their insertion; the key column is a primary key, so no two
rows share a key. An insertion under a key that is there replaces the value in its row.
Queries sort by key, byte by byte.
-/

namespace ReplayProxy

/-- Rows of keys and values, the keys distinct. -/
structure Table where
  rows : List (Bytes × Bytes)
  distinct : (rows.map Prod.fst).Nodup

namespace Table

/-- The table without rows. -/
def empty : Table := ⟨[], by simp⟩

/-- Replaces the value of the row with a key, or appends a row. -/
def upsertRows (key value : Bytes) : List (Bytes × Bytes) → List (Bytes × Bytes)
  | [] => [(key, value)]
  | (k, v) :: rest => if k = key then (k, value) :: rest else (k, v) :: upsertRows key value rest

theorem keys_upsertRows (key value : Bytes) (rows : List (Bytes × Bytes)) :
    (upsertRows key value rows).map Prod.fst =
      if key ∈ rows.map Prod.fst then rows.map Prod.fst else rows.map Prod.fst ++ [key] := by
  induction rows with
  | nil => simp [upsertRows]
  | cons row rest ih =>
    obtain ⟨k, v⟩ := row
    by_cases h : k = key
    · simp [upsertRows, h]
    · have h' : ¬key = k := fun e => h e.symm
      simp only [upsertRows, if_neg h, List.map_cons, ih, List.mem_cons, h', false_or]
      split <;> simp

/-- Inserts a row, or replaces the value of the row with its key. -/
def upsert (t : Table) (key value : Bytes) : Table where
  rows := upsertRows key value t.rows
  distinct := by
    rw [keys_upsertRows]
    split
    · exact t.distinct
    · rename_i h
      refine List.nodup_append.2 ⟨t.distinct, by simp, ?_⟩
      intro a ha b hb
      simp only [List.mem_singleton] at hb
      exact fun hab => h (hb ▸ hab ▸ ha)

/-- The value in the row with a key. -/
def select? (t : Table) (key : Bytes) : Option Bytes :=
  (t.rows.find? fun row => row.1 == key).map Prod.snd

/-- Removes the row with a key. -/
def delete (t : Table) (key : Bytes) : Table where
  rows := t.rows.filter fun row => row.1 != key
  distinct := t.distinct.sublist ((List.filter_sublist).map Prod.fst)

/-- The number of rows. -/
def count (t : Table) : Nat := t.rows.length

/-- The rows in the order of their keys. -/
def sorted (t : Table) : List (Bytes × Bytes) :=
  t.rows.mergeSort fun a b => (compare a.1 b.1).isLE

end Table

end ReplayProxy
