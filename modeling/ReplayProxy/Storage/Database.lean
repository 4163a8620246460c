import ReplayProxy.Storage.Cache
import ReplayProxy.Text.Ascii

/-!
# Databases

A database holds any number of *buckets*, each a table, a registry of the buckets that were
opened, and a table with the version of its own layout. The tables of buckets are named after
them, and the names of tables do not tell letters apart by case; the registry does. So `A`
and `a` are two buckets in one table.

Opening a database brings its layout up to date (`Database.migrate`). A layout that is
newer than this program is refused. The version is in the first row of its table, an integer
of sixty-four bits; a value that does not fit into thirty-two counts as no version.
-/

namespace ReplayProxy

/-- The names under which the program keeps its two caches. -/
def requestsBucket : String := "requests"

/-- The bucket of the metadata. -/
def metadataBucket : String := "metadata"

/-- A database of buckets. -/
structure Database where
  /-- The rows of the table of versions, in the order in which they are read. -/
  versions : List Int
  /-- The names of the buckets that were opened, in the order of their first opening. -/
  registry : List String
  /-- The tables by their names in small letters. -/
  tables : Std.ExtTreeMap String Table

namespace Database

/-- A new database. -/
def empty : Database := ⟨[], [], ∅⟩

/-- The version of the layout that this program writes. -/
def currentVersion : Int := 1

/-- The version that the first row counts as. -/
def readVersion (stored : List Int) : Int :=
  match stored with
  | v :: _ => if -2147483648 ≤ v ∧ v < 2147483648 then v else 0
  | [] => 0

/-- Writes a version into its table, whose rows it replaces. -/
def withVersion (db : Database) (version : Int) : Database := { db with versions := [version] }

/-- Brings the layout up to date, or refuses a newer one. Buckets and entries stay. -/
def migrate (db : Database) : Except StorageError Database :=
  let version := readVersion db.versions
  if version > currentVersion then
    .error (.migration ("database schema version " ++ toString version ++
      " is newer than supported version " ++ toString currentVersion))
  else if version < currentVersion then .ok (db.withVersion currentVersion)
  else .ok db

/-- Whether a name can be that of a bucket: letters and digits of ASCII and underscores. -/
def validBucket (name : String) : Bool :=
  !name.isEmpty && name.toList.all fun c => Ascii.isAlphanumeric c || c == '_'

/-- The name of a bucket's table. -/
def tableName (bucket : String) : Except StorageError String :=
  if validBucket bucket then .ok ("bucket_" ++ bucket) else .error (.invalidBucket bucket)

/-- The table of a bucket, if there is one. -/
def table? (db : Database) (bucket : String) : Except StorageError (Option Table) := do
  let name ← tableName bucket
  return db.tables[Ascii.lower name]?

/-- Replaces the table of a bucket. -/
def putTable (db : Database) (bucket : String) (t : Table) : Database :=
  { db with tables := db.tables.insert (Ascii.lower ("bucket_" ++ bucket)) t }

/-- Opens a bucket: its table is made if it is missing, and its name is registered. -/
def openBucket (db : Database) (bucket : String) : Except StorageError Database := do
  let table ← db.table? bucket
  let registry :=
    if db.registry.contains bucket then db.registry else db.registry ++ [bucket]
  return { db.putTable bucket (table.getD .empty) with registry }

/-- The names of the buckets that were opened, in order. -/
def buckets (db : Database) : List String := db.registry.mergeSort fun a b => decide (a ≤ b)

/-- The cache over a bucket. -/
def cache (db : Database) (bucket : String) : Cache :=
  match db.table? bucket with
  | .ok (some t) => { backing := .table t }
  | _ => { backing := .table .empty }

/-- Takes the entries of a cache over a bucket back into the database. -/
def store (db : Database) (bucket : String) (c : Cache) : Database :=
  match c.backing with
  | .table t => db.putTable bucket t
  | .memory _ => db

/-- The table of a bucket for direct use; it must be there. -/
def requireTable (db : Database) (bucket : String) : Except StorageError Table := do
  match ← db.table? bucket with
  | some t => return t
  | none => throw (.database ("no such table: bucket_" ++ bucket))

/-- The first bytes of the file that holds a database. -/
def image (_ : Database) : Bytes := Bytes.ofText "SQLite format 3\x00"

end Database

end ReplayProxy
