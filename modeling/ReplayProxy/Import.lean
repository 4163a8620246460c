import ReplayProxy.Error
import ReplayProxy.Fingerprint

/-!
# Imports

Recorded exchanges are imported from an archive: a local file whose name ends in `.json`,
or a web address. Each entry is stored under the fingerprint of its request, so keys that
an archive may carry do not matter; an entry that cannot be decoded is left out and
counted. A request without a content type is given one that its body suggests, so that it
is found again by live requests, which carry one.
-/

namespace ReplayProxy

/-- Where an archive is read from. -/
inductive ImportSource where
  | file (path : String)
  | web (address : String)
  deriving DecidableEq, Repr

namespace ImportSource

/-- The last component of a path: what follows its last slash, trailing slashes and
trailing `/.` not counted. -/
def fileName? (path : String) : Option String :=
  match (FileTree.components path).getLast? with
  | some ".." => none
  | some name => some name
  | none => none

/-- What follows the last dot of a file's name, unless the name begins with that dot. -/
def extension? (path : String) : Option String := do
  let name ← fileName? path
  let back := name.toList.reverse
  match back.dropWhile (· != '.') with
  | _ :: _ :: _ => some (String.ofList (back.takeWhile (· != '.')).reverse)
  | _ => none

/-- Reads a location. A file must be there and have the right extension. -/
def parse (files : FileTree) (location : String) : Except ProxyError ImportSource :=
  let location := Blank.trim location
  if isWebAddress location then .ok (.web location)
  else if !(extension? location).any fun e => Ascii.sameLetters e "json" then
    .error (.importing ("only JSON files are accepted, given file: " ++ location))
  else if !files.contains location then
    .error (.importing ("given file '" ++ location ++ "' does not exist"))
  else .ok (.file location)

/-- The source in words. -/
def describe : ImportSource → String
  | .file path => path
  | .web address => address

/-- Fetches the bytes behind a web address. -/
def fetch (s : Surroundings σ) (address : String) : StateM σ (Except ProxyError Bytes) := do
  let failed (reason : String) : ProxyError :=
    .importing ("failed to fetch " ++ address ++ ": " ++ reason)
  match Url.parse? address with
  | none => return .error (failed SendError.malformed.message)
  | some url =>
    let delivery ← s.send
      { method := "GET", url, body := [], followRedirects := true, limit := none, verify := true
        headers := Outgoing.headersFor url [] }
    match delivery with
    | .failed reason => return .error (failed (SendError.unanswered reason).message)
    | .overran => return .error (failed (SendError.unanswered "operation timed out").message)
    | .reply incoming =>
      if incoming.status < 200 || incoming.status ≥ 300 then
        return .error (failed ("status " ++ Http.statusText incoming.status))
      else
        match incoming.body with
        | .ok body => return .ok body
        | .error reason => return .error (.importing ("error reading the body: " ++ reason))

/-- Reads the archive. -/
def load (source : ImportSource) (files : FileTree) (s : Surroundings σ) :
    StateM σ (Except ProxyError Archive) := do
  let bytes ← match source with
    | .file path =>
      match files.read path with
      | .ok b => pure (.ok b)
      | .error e => pure (.error (.io e))
    | .web address => fetch s address
  match bytes with
  | .error e => return .error e
  | .ok b =>
    match Archive.parse b with
    | .ok a => return .ok a
    | .error e => return .error (.json e)

end ImportSource

namespace Import

/-- The content type that a body suggests. -/
def sniffContentType (body : Bytes) : String :=
  match Json.Value.parse body with
  | .ok (.object _) => "application/json"
  | _ => if body.isText then "text/plain; charset=utf-8" else "application/octet-stream"

/-- The request with a content type. -/
def fillContentType (r : Request) : Request :=
  match r.headers.first? "Content-Type" with
  | some _ => r
  | none => r.addHeader "Content-Type" (sniffContentType r.body)

/-- What an entry of an archive is stored as. -/
def entry (f : ExchangeForm) : Except EncodingError (String × Exchange) := do
  let x ← f.exchange
  let x := { x with request := fillContentType x.request }
  return (x.request.fingerprint, x)

/-- The exchanges that entries stand for, each with its fingerprint, and the number of
entries that stand for none. -/
def entries : List ExchangeForm → List (String × Exchange) × Nat
  | [] => ([], 0)
  | f :: rest =>
    let (done, failed) := entries rest
    match entry f with
    | .ok e => (e :: done, failed)
    | .error _ => (done, failed + 1)

/-- The exchanges of an archive, which must not be empty. -/
def prepare (a : Archive) : Except ProxyError (List (String × Exchange) × Nat) :=
  if a.data.isEmpty then .error (.importing "nothing to import") else .ok (entries a.data)

end Import

end ReplayProxy
