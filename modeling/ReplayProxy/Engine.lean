import ReplayProxy.Forward
import ReplayProxy.Import

/-!
# The engine

The engine answers requests in the mode that is active when they arrive, over a cache of
recorded exchanges and a cache of metadata. Nothing that a transform, a destination or a
cache does makes it give no answer: each failure becomes a response that says what failed.

* `virtualize` forwards;
* `capture` forwards what the transform, if there is one, makes of the request, and records
  the request as it came with the response;
* `simulate` answers from the records, through the transform if there is one;
* `modify` forwards what the transform makes of the request, and answers what it makes of
  the response;
* `synthesize` answers what the transform makes up.

Records are kept under the fingerprints of their requests. Only `capture`, an import and a
deletion change them.

While it answers, the engine asks two things of the world: what a transform makes of an
exchange, and what a destination answers to a request. The modes are written over any
`Outside` that decides these, so what holds of them holds whatever comes back.
-/

namespace ReplayProxy

/-- How an engine starts. -/
structure EngineSettings where
  mode : Mode := .virtualize
  /-- The pattern of the hosts that the engine deals with. -/
  destination : String := "."
  transform : Option Transform := none
  forwarding : ForwardSettings := {}

/-- The state of the proxy. -/
structure Engine where
  mode : Mode
  /-- The text of the pattern of destinations. -/
  destination : String
  pattern : Regex
  transform : Option Transform
  forwarding : ForwardSettings
  /-- The recorded exchanges. -/
  requests : Cache
  metadata : Cache
  counters : Counters

/-- What the engine asks of the world, whose states are `σ`, while it answers a request. -/
structure Outside (σ : Type) where
  /-- What a transform makes of an exchange; the identifier goes with it. -/
  transform : Transform → Exchange → String → StateM σ (Except TransformError Exchange)
  /-- What the destination of a request answers. -/
  forward : ForwardSettings → Request → StateM σ (Except ProxyError Response)

/-- The outside that surroundings make up. -/
def Surroundings.outside (s : Surroundings σ) : Outside σ where
  transform t x id := t.apply s x id
  forward settings r := Forward.forward settings s r

namespace Engine

/-- The kind of the exchanges that are recorded. -/
def recordingKind : String := "recording"

/-- The response that says what failed and why. -/
def errorResponse (status : UInt16) (message error : String) : Response :=
  let body := "Understudy Error! " ++ message ++ ". Got error: " ++ error ++ "\n"
  Response.addHeader { status, body := Bytes.ofText body } "Content-Type" "text/plain"

/-- Whether a mode can be active with a transform, or without one. -/
def checkMode (transform : Option Transform) (m : Mode) : Except ProxyError Unit :=
  if m.requiresTransform && transform.isNone then .error (.missingTransform m) else .ok ()

/-- Reads a pattern. -/
def readPattern (s : String) : Except ProxyError Regex :=
  match Regex.parse s with
  | .ok r => .ok r
  | .error e => .error (.pattern e)

/-- A new engine over two caches. -/
def create (settings : EngineSettings) (requests metadata : Cache) : Except ProxyError Engine := do
  checkMode settings.transform settings.mode
  let pattern ← readPattern settings.destination
  return { mode := settings.mode, destination := settings.destination, pattern
           transform := settings.transform, forwarding := settings.forwarding
           requests, metadata, counters := .empty }

/-- Switches the mode. -/
def setMode (e : Engine) (m : Mode) : Except ProxyError Engine := do
  checkMode e.transform m
  return { e with mode := m }

/-- Switches the mode; the mode that was active before comes with the engine. -/
def switchMode (e : Engine) (m : Mode) : Except ProxyError (Mode × Engine) := do
  return (e.mode, ← e.setMode m)

/-- Replaces the pattern of destinations. -/
def setDestination (e : Engine) (s : String) : Except ProxyError Engine := do
  let pattern ← readPattern s
  return { e with destination := s, pattern }

/-- Whether the engine deals with a host. -/
def concerns (e : Engine) (host : String) : Bool := e.pattern.isMatch host

/-! ### Records -/

/-- An answer of a cache as an answer of the engine. -/
def stored : Except StorageError α → Except ProxyError α
  | .ok a => .ok a
  | .error e => .error (.storage e)

/-- The exchange recorded under a fingerprint. -/
def lookup (e : Engine) (key : Bytes) : Except ProxyError Exchange :=
  match e.requests.get key with
  | .error err => .error (.storage err)
  | .ok value =>
    match Exchange.decode value with
    | .ok x => .ok x
    | .error err => .error (.encoding err)

/-- The cache with an exchange recorded; a cache that refuses stays as it is. -/
def record (c : Cache) (key : Bytes) (x : Exchange) : Cache :=
  match c.set key x.encode with
  | .ok c => c
  | .error _ => c

/-! ### The modes -/

/-- The engine forwards. -/
def virtualize (e : Engine) (o : Outside σ) (r : Request) : StateM σ Response := do
  match ← o.forward e.forwarding r with
  | .ok response => return response
  | .error err =>
    return errorResponse 502
      "There was an error when forwarding the request to the intended destination" err.message

/-- What failed when nothing could be captured. -/
def captureFailed : String := "Could not capture request"

/-- What the transform, if there is one, makes of a request without a response. -/
def prepared (e : Engine) (o : Outside σ) (r : Request) :
    StateM σ (Except TransformError Request) := do
  match e.transform with
  | none => return .ok r
  | some t =>
    match ← o.transform t { request := r } r.fingerprint with
    | .ok x => return .ok x.request
    | .error err => return .error err

/-- The engine forwards and records. -/
def capture (e : Engine) (o : Outside σ) (r : Request) : StateM σ (Response × Engine) := do
  match ← e.prepared o r with
  | .error err => return (errorResponse 503 captureFailed err.message, e)
  | .ok outgoing =>
    match ← o.forward e.forwarding outgoing with
    | .error err => return (errorResponse 503 captureFailed err.message, e)
    | .ok response =>
      let x : Exchange := { request := r, response, kind := some recordingKind }
      return (response, { e with requests := record e.requests r.key x })

/-- The engine answers from the records. -/
def simulate (e : Engine) (o : Outside σ) (r : Request) : StateM σ Response := do
  match e.lookup r.key with
  | .error err =>
    if err.isNotFound then
      return errorResponse 412 "Could not find recorded request, please record it first!"
        err.message
    else return errorResponse 500 "Failed to simulate" err.message
  | .ok found =>
    match e.transform with
    | none => return found.response
    | some t =>
      match ← o.transform t { request := r, response := found.response } r.fingerprint with
      | .ok x => return x.response
      | .error err => return errorResponse 503 "Failed to simulate" err.message

/-- What failed when nothing could be modified. -/
def modifyFailed (definition : String) : String :=
  "Middleware (" ++ definition ++ ") failed or something else happened!"

/-- The engine transforms the request, forwards it and transforms the response. -/
def modify (e : Engine) (o : Outside σ) (r : Request) : StateM σ Response := do
  match e.transform with
  | none =>
    return errorResponse 503 (modifyFailed "none") (ProxyError.missingTransform .modify).message
  | some t =>
    let failed := modifyFailed t.definition.describe
    match ← o.transform t { request := r } r.fingerprint with
    | .error err => return errorResponse 503 failed err.message
    | .ok outgoing =>
      match ← o.forward e.forwarding outgoing.request with
      | .error err => return errorResponse 503 failed err.message
      | .ok response =>
        match ← o.transform t { request := r, response } r.fingerprint with
        | .ok x => return x.response
        | .error err => return errorResponse 503 failed err.message

/-- What failed when nothing could be made up. -/
def synthesizeFailed : String := "Could not create synthetic response!"

/-- The engine lets the transform make up the response, which must have a status that HTTP
can carry. -/
def synthesize (e : Engine) (o : Outside σ) (r : Request) : StateM σ Response := do
  match e.transform with
  | none =>
    return errorResponse 503 synthesizeFailed (ProxyError.missingTransform .synthesize).message
  | some t =>
    match ← o.transform t { request := r } r.fingerprint with
    | .error err => return errorResponse 503 synthesizeFailed err.message
    | .ok x =>
      if Response.validStatus x.response.status then return x.response
      else
        return errorResponse 503 synthesizeFailed
          (ProxyError.http ("invalid status code " ++ toString x.response.status.toNat)).message

/-- Answers a request in the active mode and counts it. -/
def answer (e : Engine) (o : Outside σ) (r : Request) : StateM σ (Response × Engine) := do
  let counted (e' : Engine) : Engine := { e' with counters := e'.counters.increment e.mode }
  match e.mode with
  | .virtualize => return (← e.virtualize o r, counted e)
  | .capture =>
    let (response, e') ← e.capture o r
    return (response, counted e')
  | .simulate => return (← e.simulate o r, counted e)
  | .modify => return (← e.modify o r, counted e)
  | .synthesize => return (← e.synthesize o r, counted e)

/-- Answers a request in the surroundings of the proxy. -/
def process (e : Engine) (s : Surroundings σ) (r : Request) : StateM σ (Response × Engine) :=
  e.answer s.outside r

/-! ### Listing and importing records -/

/-- The recorded exchanges in the order of their fingerprints. What cannot be decoded is
left out. -/
def records (e : Engine) : Except ProxyError Archive := do
  let values ← stored e.requests.values
  return ⟨values.filterMap fun v =>
    match Exchange.decode v with
    | .ok x => some (.ofExchange x)
    | .error _ => none⟩

/-- Stores exchanges one after the other; the number that the cache took. -/
def storeAll (c : Cache) : List (String × Exchange) → Cache × Nat
  | [] => (c, 0)
  | (key, x) :: rest =>
    match c.set (Bytes.ofText key) x.encode with
    | .ok c =>
      let (c, n) := storeAll c rest
      (c, n + 1)
    | .error _ => storeAll c rest

/-- Stores every exchange of an archive under the fingerprint of its request; the number
stored. -/
def importArchive (e : Engine) (a : Archive) : Except ProxyError (Nat × Engine) := do
  let (entries, _) ← Import.prepare a
  let (requests, n) := storeAll e.requests entries
  return (n, { e with requests })

/-- Imports an archive from where it is. -/
def importFrom (e : Engine) (files : FileTree) (s : Surroundings σ) (location : String) :
    StateM σ (Except ProxyError (Nat × Engine)) := do
  match ImportSource.parse files location with
  | .error err => return .error err
  | .ok source =>
    match ← source.load files s with
    | .error err => return .error err
    | .ok a => return e.importArchive a

/-- Removes every record. -/
def deleteRecords (e : Engine) : Except ProxyError Engine := do
  return { e with requests := ← stored e.requests.clear }

/-- The number of records. -/
def recordsCount (e : Engine) : Except ProxyError Nat := stored e.requests.count

/-! ### Metadata -/

/-- The metadata in the order of the keys, read as text as nearly as can be. -/
def metadataEntries (e : Engine) : Except ProxyError (Std.ExtTreeMap String String) := do
  let entries ← stored e.metadata.entries
  return entries.foldl (fun m entry => m.insert (Utf8.lossy entry.1) (Utf8.lossy entry.2)) ∅

/-- Stores a value under a key, which must not be empty. -/
def setMetadata (e : Engine) (key value : String) : Except ProxyError Engine := do
  if key.isEmpty then throw (.config "metadata key must not be empty")
  return { e with metadata := ← stored (e.metadata.set (Bytes.ofText key) (Bytes.ofText value)) }

/-- Removes all metadata. -/
def deleteMetadata (e : Engine) : Except ProxyError Engine := do
  return { e with metadata := ← stored e.metadata.clear }

end Engine

end ReplayProxy
