import ReplayProxy.Text.Utf8

/-!
# Storage errors

A missing key is told apart from every failure of the storage itself: the first is an
ordinary answer, the others are not.
-/

namespace ReplayProxy

/-- Why a storage operation gives no answer. -/
inductive StorageError where
  /-- The database refused. -/
  | database (reason : String)
  /-- The files under the database failed. -/
  | io (reason : String)
  /-- Nothing is stored under the key. -/
  | notFound (key : Bytes)
  /-- The name cannot be that of a bucket. -/
  | invalidBucket (name : String)
  /-- The database is newer than this program. -/
  | migration (reason : String)
  deriving DecidableEq, Repr

namespace StorageError

/-- The sentence on a storage error. Keys that are not text are shown as nearly as can be. -/
def message : StorageError → String
  | .database reason => "Database error: " ++ reason
  | .io reason => "IO error: " ++ reason
  | .notFound key => "Record not found: " ++ Utf8.lossy key
  | .invalidBucket name => "Invalid bucket name: " ++ name
  | .migration reason => "Migration error: " ++ reason

/-- Whether the error only says that a key is missing. -/
def isNotFound : StorageError → Bool
  | .notFound _ => true
  | _ => false

end StorageError

end ReplayProxy
