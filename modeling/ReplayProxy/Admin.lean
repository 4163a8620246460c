import ReplayProxy.Handling
import ReplayProxy.Http.MediaType

/-!
# Administration

A second server lets people look at the proxy and steer it. Its resources are the records,
their number, statistics, the state (mode and destination), the metadata and a sign of
life; each answers to a few methods. Bodies are JSON.

A request may fail on the way, and then the engine is left as it is at that point; it is for the
handlers to look at everything before they change anything. Any site may ask, so every answer
allows every origin, and a browser that asks first (`OPTIONS`) is told that it may.
-/

namespace ReplayProxy

/-- A resource of the administration. -/
inductive Resource where
  | records
  | count
  | stats
  | state
  | metadata
  | health
  deriving DecidableEq, Repr

namespace Resource

/-- Every resource. -/
def all : List Resource := [.records, .count, .stats, .state, .metadata, .health]

/-- Where a resource is found. -/
def path : Resource → String
  | .records => "/api/records"
  | .count => "/api/count"
  | .stats => "/api/stats"
  | .state => "/api/state"
  | .metadata => "/api/metadata"
  | .health => "/api/health"

/-- The resource at a path. -/
def ofPath? (p : String) : Option Resource := all.find? fun r => r.path == p

/-- The methods that a resource answers to. -/
def methods : Resource → List String
  | .records => ["GET", "HEAD", "POST", "DELETE"]
  | .state => ["GET", "HEAD", "POST"]
  | .metadata => ["GET", "HEAD", "PUT", "DELETE"]
  | .count | .stats | .health => ["GET", "HEAD"]

end Resource

/-- Why the administration refuses a request that it understands. -/
inductive AdminError where
  /-- What is asked for makes no sense. -/
  | badRequest (reason : String)
  /-- The records that were sent cannot be used. -/
  | unprocessable (reason : String)
  /-- The engine failed. -/
  | failed (cause : ProxyError)

namespace AdminError

/-- The status of an error. -/
def status : AdminError → UInt16
  | .badRequest _ => 400
  | .unprocessable _ => 422
  | .failed _ => 500

/-- The word for an error. -/
def code : AdminError → String
  | .badRequest _ => "bad_request"
  | .unprocessable _ => "unprocessable"
  | .failed _ => "proxy_error"

/-- The sentence on an error. -/
def message : AdminError → String
  | .badRequest reason => "bad request: " ++ reason
  | .unprocessable reason => "unprocessable entity: " ++ reason
  | .failed e => e.message

/-- Who is to blame for an error of the engine. -/
def ofProxyError : ProxyError → AdminError
  | .mode e => .badRequest (ProxyError.mode e).message
  | .config reason => .badRequest (ProxyError.config reason).message
  | .pattern e => .badRequest (ProxyError.pattern e).message
  | .importing reason => .unprocessable (ProxyError.importing reason).message
  | .json e => .unprocessable (ProxyError.json e).message
  | .encoding e => .unprocessable (ProxyError.encoding e).message
  | e => .failed e

end AdminError

/-- A change of the state. What is not there stays. -/
structure StateChange where
  mode : Option String := none
  destination : Option String := none
  deriving DecidableEq, Repr

namespace StateChange

/-- The fields of a change, in their order. -/
def fields : List (Json.RecordField StateChange) := [
  .optional "mode" Json.Tree.asText? fun v c => { c with mode := v },
  .optional "destination" Json.Tree.asText? fun v c => { c with destination := v }]

/-- Reads a change. -/
def ofTree : Json.Tree → Except Json.Fault StateChange := Json.RecordField.readRecord fields {}

end StateChange

/-- A piece of metadata. -/
structure MetadataEntry where
  key : String := ""
  value : String := ""
  deriving DecidableEq, Repr

namespace MetadataEntry

/-- The fields of an entry, in their order. -/
def fields : List (Json.RecordField MetadataEntry) := [
  .optional "key" Json.Tree.asText fun v e => { e with key := v },
  .optional "value" Json.Tree.asText fun v e => { e with value := v }]

/-- Reads an entry. -/
def ofTree : Json.Tree → Except Json.Fault MetadataEntry := Json.RecordField.readRecord fields {}

end MetadataEntry

namespace Admin

open Json (Value)

/-- How a request ends: with an answer, with an error, or with a refusal in plain text before
its content is looked at. An answer and an error come with the engine that they leave. -/
inductive Outcome where
  | done (status : UInt16) (value : Value) (engine : Engine)
  | refused (error : AdminError) (engine : Engine)
  | rejected (status : UInt16) (text : String)

/-- The greatest number of bytes of a body. -/
def bodyLimit : Nat := 2097152

/-- The body of a request, unless it is too long. -/
def bodyOf (r : ClientRequest) (next : Bytes → Outcome) : Outcome :=
  match r.body with
  | .error _ => .rejected 400 "Failed to buffer the request body"
  | .ok body =>
    if body.length > bodyLimit then
      .rejected 413 "Failed to buffer the request body: length limit exceeded"
    else next body

/-- Whether a request says that its body is JSON. -/
def announcesJson (r : ClientRequest) : Bool :=
  match r.headers.lookup "content-type" with
  | some value =>
    match Bytes.text? value with
    | some s => (Http.MediaType.parse? s).any (·.isJson)
    | none => false
  | none => false

/-- What the body of a request says in JSON. -/
def jsonOf (r : ClientRequest) (read : Json.Tree → Except Json.Fault α) (next : α → Outcome) :
    Outcome :=
  if !announcesJson r then
    .rejected 415 "Expected request with \x60Content-Type: application/json\x60"
  else
    bodyOf r fun body =>
      match Json.decode read body with
      | .ok a => next a
      | .error .malformed => .rejected 400 "Failed to parse the request body as JSON"
      | .error .mismatch =>
        .rejected 422 "Failed to deserialize the JSON body into the target type"

/-- Goes on with what the engine `e` gives; if it gives an error, the request ends with the
engine as it is. -/
def ofEngine (e : Engine) (result : Except ProxyError α) (next : α → Outcome) : Outcome :=
  match result with
  | .ok a => next a
  | .error err => .refused (.ofProxyError err) e

/-- A sentence as an answer. -/
def message (s : String) : Value := .object [("message", .string s)]

/-! ### What is asked for -/

/-- The mode and the destination. -/
def stateValue (e : Engine) : Value :=
  .object [("mode", e.mode.toValue), ("destination", .string e.destination)]

/-- The counts of the modes. -/
def countersValue (e : Engine) : Value :=
  .object (e.counters.snapshot.map fun entry => (entry.1, .nat entry.2.toNat))

/-- What a resource shows. -/
def display (e : Engine) : Resource → Outcome
  | .records => ofEngine e e.records fun a => .done 200 a.toValue e
  | .count => ofEngine e e.recordsCount fun n => .done 200 (.object [("count", .nat n)]) e
  | .stats => ofEngine e e.recordsCount fun n =>
    .done 200
      (.object [("stats", .object [("counters", countersValue e)]), ("recordsCount", .nat n)]) e
  | .state => .done 200 (stateValue e) e
  | .metadata => ofEngine e e.metadataEntries fun entries =>
    .done 200
      (.object [("data", .object (entries.toList.map fun m => (m.1, .string m.2)))]) e
  | .health => .done 200 (.object [("status", .string "ok")]) e

/-! ### What is changed -/

/-- Imports the records in a body. -/
def importRecords (e : Engine) (r : ClientRequest) : Outcome :=
  bodyOf r fun body =>
    match Archive.parse body with
    | .error fault => .refused (.unprocessable fault.message) e
    | .ok a => ofEngine e (e.importArchive a) fun (n, e) =>
      .done 200 (message (toString n ++ " payloads import complete.")) e

/-- The mode that a change asks for, if it can be active. -/
def modeOf (e : Engine) (c : StateChange) : Except AdminError (Option Mode) :=
  match c.mode with
  | none => .ok none
  | some name =>
    match Mode.parse name with
    | .error err => .error (.badRequest err.message)
    | .ok m =>
      if m.requiresTransform && e.transform.isNone then
        .error (.badRequest (m.name ++ " mode requires middleware"))
      else .ok (some m)

/-- Changes the state. The mode is looked at first, then the destination is set, and then the
mode. -/
def changeState (e : Engine) (c : StateChange) : Outcome :=
  match modeOf e c with
  | .error err => .refused err e
  | .ok mode =>
    ofEngine e (c.destination.elim (.ok e) e.setDestination) fun e =>
      ofEngine e (mode.elim (.ok e) e.setMode) fun e => .done 200 (stateValue e) e

/-- Stores a piece of metadata. -/
def storeMetadata (e : Engine) (m : MetadataEntry) : Outcome :=
  if m.key.isEmpty then .refused (.badRequest "key is required") e
  else
    ofEngine e (e.setMetadata m.key m.value) fun e =>
      .done 201 (message ("Key:" ++ m.key ++ " Value:" ++ m.value ++ " added to metadata.")) e

/-- Carries out a request for a resource. `none` if the resource has no such method. -/
def perform (e : Engine) (resource : Resource) (r : ClientRequest) : Option Outcome :=
  match r.method, resource with
  | "GET", resource | "HEAD", resource => some (display e resource)
  | "POST", .records => some (importRecords e r)
  | "DELETE", .records => some (ofEngine e e.deleteRecords fun e =>
      .done 200 (message "Proxy cache deleted successfully") e)
  | "POST", .state => some (jsonOf r StateChange.ofTree (changeState e))
  | "PUT", .metadata => some (jsonOf r MetadataEntry.ofTree (storeMetadata e))
  | "DELETE", .metadata => some (ofEngine e e.deleteMetadata fun e =>
      .done 200 (message "Metadata deleted successfully") e)
  | _, _ => none

/-! ### Answers as HTTP -/

/-- The header that allows every origin. -/
def anyOrigin : String × String := ("access-control-allow-origin", "*")

/-- The header that names the methods of a resource. -/
def allow (resource : Resource) : String × String :=
  ("allow", String.intercalate "," resource.methods)

/-- A value as a reply. -/
def replyWith (status : UInt16) (v : Value) : Reply :=
  { status, headers := [("content-type", "application/json"), anyOrigin], body := v.bytes }

/-- The value that tells an error. -/
def errorValue (e : AdminError) : Value :=
  .object [("error", .string e.message), ("code", .string e.code)]

/-- An outcome as a reply, and the engine after it. -/
def conclude (before : Engine) : Outcome → Reply × Engine
  | .done status v e => (replyWith status v, e)
  | .refused err e => (replyWith err.status (errorValue err), e)
  | .rejected status text =>
    ({ status, headers := [("content-type", "text/plain; charset=utf-8"), anyOrigin],
       body := Bytes.ofText text }, before)

/-- The answer to a browser that asks whether it may. -/
def permission (resource : Option Resource) : Reply :=
  { status := 200
    headers := [("access-control-allow-methods", "*"), ("access-control-allow-headers", "*"),
      anyOrigin] ++ (resource.map allow).toList }

/-- Answers a request to the administration. -/
def answer (e : Engine) (r : ClientRequest) : Reply × Engine :=
  let resource := Resource.ofPath? r.uri.path
  if r.method = "OPTIONS" then (permission resource, e)
  else
    match resource with
    | none => ({ status := 404, headers := [anyOrigin] }, e)
    | some resource =>
      match perform e resource r with
      | none => ({ status := 405, headers := [anyOrigin, allow resource] }, e)
      | some outcome =>
        let (reply, e) := conclude e outcome
        if r.method = "HEAD" then ({ reply with body := [] }, e) else (reply, e)

end Admin

end ReplayProxy
