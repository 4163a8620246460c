import ReplayProxy.Storage.Database
import ReplayProxy.Text.Bytes

/-!
# File trees

What the program keeps on disk: a map from paths to files, databases and directories. A
path is the list of its components from the root; relative paths hang off a directory `.`
of their own. Paths are resolved component by component: every component that is passed
through must be a directory, `..` goes up, empty components and `.` stay, and a path that
ends in a slash must name a directory.

A file may refuse to be written; everything else about it stays as it is.
-/

namespace ReplayProxy

/-- Why an operation on files fails. -/
inductive FileError where
  | notFound
  | notDirectory
  | isDirectory
  | readOnly
  | notText
  deriving DecidableEq, Repr

/-- The sentence on a file error. -/
def FileError.message : FileError → String
  | .notFound => "no such file or directory"
  | .notDirectory => "not a directory"
  | .isDirectory => "is a directory"
  | .readOnly => "permission denied"
  | .notText => "the file is not text"

/-- What a path names. -/
inductive Node where
  | directory
  | file (content : Bytes) (writable : Bool)
  | database (content : Database)

/-- The path of a file from the root. -/
abbrev Path := List String

/-- Files and directories by path. The root and the directory of relative paths are always
there. -/
structure FileTree where
  nodes : Std.ExtTreeMap Path Node := ∅

namespace FileTree

/-- The components of a path as written. -/
def components (path : String) : List String :=
  ((path.toList.splitOn '/').map String.ofList).filter fun c => c != "" && c != "."

/-- Where a path as written starts. -/
def base (path : String) : Path := if path.startsWith "/" then [] else ["."]

/-- Whether a path as written insists on a directory. -/
def wantsDirectory (path : String) : Bool :=
  path.endsWith "/" || path.endsWith "/." || path == "."

/-- What is at a resolved path. -/
def node? (t : FileTree) (p : Path) : Option Node :=
  if p == [] || p == ["."] then some .directory else t.nodes[p]?

/-- Follows components from a directory. Only the last one may be missing. -/
def walk (t : FileTree) : Path → List String → Except FileError Path
  | p, [] => .ok p
  | p, c :: rest =>
    match t.node? p with
    | none => .error .notFound
    | some .directory => walk t (if c = ".." then p.dropLast else p ++ [c]) rest
    | some _ => .error .notDirectory

/-- The resolved form of a path as written. -/
def resolve (t : FileTree) (path : String) : Except FileError Path := do
  if path.isEmpty then throw .notFound
  let p ← t.walk (base path) (components path)
  match t.node? p with
  | some .directory | none => return p
  | some _ => if wantsDirectory path then throw .notDirectory else return p

/-- What a path as written names. -/
def find (t : FileTree) (path : String) : Except FileError Node := do
  let p ← t.resolve path
  match t.node? p with
  | some n => return n
  | none => throw .notFound

/-- Whether a path as written names something. -/
def contains (t : FileTree) (path : String) : Bool :=
  match t.find path with
  | .ok _ => true
  | .error _ => false

/-- The content of a file. -/
def read (t : FileTree) (path : String) : Except FileError Bytes := do
  match ← t.find path with
  | .file content _ => return content
  | .database d => return d.image
  | .directory => throw .isDirectory

/-- The content of a file that is text. -/
def readText (t : FileTree) (path : String) : Except FileError String := do
  match (← t.read path).text? with
  | some s => return s
  | none => throw .notText

/-- Puts a node at a resolved path. -/
def put (t : FileTree) (p : Path) (n : Node) : FileTree := ⟨t.nodes.insert p n⟩

/-- Writes a file, over the old one if there is one. -/
def write (t : FileTree) (path : String) (content : Bytes) : Except FileError FileTree := do
  let p ← t.resolve path
  match t.node? p with
  | some .directory => throw .isDirectory
  | some (.file _ false) => throw .readOnly
  | some _ => return t.put p (.file content true)
  | none => if wantsDirectory path then throw .isDirectory else return t.put p (.file content true)

/-- Removes a file. -/
def remove (t : FileTree) (path : String) : Except FileError FileTree := do
  let p ← t.resolve path
  match t.node? p with
  | some .directory => throw .isDirectory
  | some _ => return ⟨t.nodes.erase p⟩
  | none => throw .notFound

/-- Follows components from a directory, making the directories that are missing. -/
def makeFrom (t : FileTree) : Path → List String → Except FileError FileTree
  | _, [] => .ok t
  | p, c :: rest =>
    let q := if c = ".." then p.dropLast else p ++ [c]
    match t.node? q with
    | none => makeFrom (t.put q .directory) q rest
    | some .directory => makeFrom t q rest
    | some _ => .error .notDirectory

/-- Makes a directory and the directories above it that are missing. -/
def makeDirectory (t : FileTree) (path : String) : Except FileError FileTree :=
  t.makeFrom (base path) (components path)

/-- The path above a path as written; `none` above a root or nothing. A trailing slash does
not count. -/
def parent? (path : String) : Option String :=
  match components path with
  | [] => none
  | cs =>
    let up := String.intercalate "/" cs.dropLast
    some (if path.startsWith "/" then "/" ++ up else up)

/-- A path below a directory. -/
def join (directory name : String) : String :=
  if directory.isEmpty then name
  else if directory.endsWith "/" then directory ++ name
  else directory ++ "/" ++ name

/-- The database that a path names, brought up to date: an existing one, or a new one when
the file is missing or empty. -/
def databaseAt (t : FileTree) (path : String) : Except StorageError (Path × Database) := do
  match t.resolve path with
  | .error e => throw (.database e.message)
  | .ok p =>
    let db ← match t.node? p with
      | some (.database d) => d.migrate
      | some (.file [] true) => Database.empty.migrate
      | some (.file _ _) => throw (.database "file is not a database")
      | some .directory => throw (.database "unable to open database file")
      | none =>
        if wantsDirectory path then throw (.database "unable to open database file")
        else Database.empty.migrate
    return (p, db)

/-- Opens the database behind a path, making the directories above it that are missing.
The directories stay when the opening fails. -/
def openDatabase (t : FileTree) (path : String) : Except StorageError Database × FileTree :=
  match t.makeDirectory ((parent? path).getD "") with
  | .error e => (.error (.io e.message), t)
  | .ok t =>
    match t.databaseAt path with
    | .error e => (.error e, t)
    | .ok (p, db) => (.ok db, t.put p (.database db))

/-- Writes a database back to its file. -/
def saveDatabase (t : FileTree) (path : String) (db : Database) : FileTree :=
  match t.resolve path with
  | .ok p => t.put p (.database db)
  | .error _ => t

end FileTree

end ReplayProxy
