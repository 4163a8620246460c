import ReplayProxy.Storage.Error
import ReplayProxy.Storage.Table

/-!
# Caches

A cache maps byte strings to byte strings and enumerates them in the order of the keys. It
is kept in memory or in a table of a database; both give the same answers. Each operation
happens wholly or not at all.

The medium under a cache may fail. Which operations fail, and how, is part of the cache's
state (`Cache.faults`); a cache without faults is *sound*.
-/

namespace ReplayProxy

/-- The operations of a cache. -/
inductive Operation where
  | set
  | get
  | values
  | entries
  | count
  | delete
  | clear
  | keys
  deriving DecidableEq, Repr

/-- What holds the entries of a cache. -/
inductive Backing where
  | memory (entries : Std.ExtTreeMap Bytes Bytes)
  | table (rows : Table)

/-- An ordered map from byte strings to byte strings on a medium that may fail. -/
structure Cache where
  backing : Backing
  /-- The error that an operation gives instead of its answer. -/
  faults : Operation → Option StorageError := fun _ => none

namespace Backing

/-- The value under a key. -/
def get? (key : Bytes) : Backing → Option Bytes
  | .memory m => m[key]?
  | .table t => t.select? key

/-- The entries in the order of their keys. -/
def entries : Backing → List (Bytes × Bytes)
  | .memory m => m.toList
  | .table t => t.sorted

/-- The number of entries. -/
def count : Backing → Nat
  | .memory m => m.size
  | .table t => t.count

/-- Puts a value under a key. -/
def set (key value : Bytes) : Backing → Backing
  | .memory m => .memory (m.insert key value)
  | .table t => .table (t.upsert key value)

/-- Removes a key. -/
def delete (key : Bytes) : Backing → Backing
  | .memory m => .memory (m.erase key)
  | .table t => .table (t.delete key)

/-- Removes everything. -/
def clear : Backing → Backing
  | .memory _ => .memory ∅
  | .table _ => .table .empty

end Backing

namespace Cache

/-- An empty cache in memory. -/
def inMemory : Cache := { backing := .memory ∅ }

/-- An answer, unless the operation fails. -/
def answer (c : Cache) (op : Operation) (a : α) : Except StorageError α :=
  match c.faults op with
  | some e => .error e
  | none => .ok a

/-- No operation fails. -/
def Sound (c : Cache) : Prop := ∀ op, c.faults op = none

/-- Inserts or overwrites. -/
def set (c : Cache) (key value : Bytes) : Except StorageError Cache :=
  c.answer .set { c with backing := c.backing.set key value }

/-- The value under exactly this key. -/
def get (c : Cache) (key : Bytes) : Except StorageError Bytes := do
  match ← c.answer .get (c.backing.get? key) with
  | some v => return v
  | none => throw (.notFound key)

/-- All entries in the order of their keys. -/
def entries (c : Cache) : Except StorageError (List (Bytes × Bytes)) :=
  c.answer .entries c.backing.entries

/-- All values in the order of their keys. -/
def values (c : Cache) : Except StorageError (List Bytes) :=
  c.answer .values (c.backing.entries.map Prod.snd)

/-- All keys in order. -/
def keys (c : Cache) : Except StorageError (List Bytes) :=
  c.answer .keys (c.backing.entries.map Prod.fst)

/-- The number of keys. -/
def count (c : Cache) : Except StorageError Nat := c.answer .count c.backing.count

/-- Removes a key. A key that is not there may be removed too. -/
def delete (c : Cache) (key : Bytes) : Except StorageError Cache :=
  c.answer .delete { c with backing := c.backing.delete key }

/-- Removes every entry. -/
def clear (c : Cache) : Except StorageError Cache :=
  c.answer .clear { c with backing := c.backing.clear }

/-- The cache on a medium that fails as given. -/
def withFaults (c : Cache) (faults : Operation → Option StorageError) : Cache := { c with faults }

end Cache

end ReplayProxy
