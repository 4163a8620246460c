import ReplayProxy.Engine
import ReplayProxy.Http.Uri

/-!
# Handling clients

What the proxy does with the requests of its clients. A request for a tunnel, and every
request for a host that the engine is not concerned with, is passed on untouched. A request
that names no host was meant for the proxy itself, which says so. All others are read into
the engine's form, answered by the engine, and the answer is written as HTTP; when it
cannot be, the client learns why.
-/

namespace ReplayProxy

/-- A request as a client sent it. -/
structure ClientRequest where
  method : String
  uri : Http.Uri
  /-- Names in small letters, in order. -/
  headers : List (String × Bytes)
  /-- The body, or why it could not be read. -/
  body : Except String Bytes

/-- An answer as a client gets it. -/
structure Reply where
  status : UInt16
  /-- Names in small letters, in order. -/
  headers : List (String × String) := []
  body : Bytes := []
  deriving DecidableEq, Repr

/-- What becomes of a client's request. -/
inductive Handled where
  /-- It is sent on as it is. -/
  | passed
  | answered (reply : Reply)
  deriving DecidableEq, Repr

namespace ClientRequest

/-- A header as HTTP can carry it, its name in small letters. -/
def header? (h : Bytes × Bytes) : Option (String × Bytes) := do
  let name ← h.1.text?
  if Http.isName name && Http.isValue h.2 then some (Ascii.lower name, h.2) else none

/-- Puts a request together; `none` if it is not HTTP. -/
def ofParts? (method uri : String) (headers : List (Bytes × Bytes)) (body : Except String Bytes) :
    Option ClientRequest := do
  if !Http.isToken method then none
  let uri ← Http.Uri.parse? uri
  let headers ← headers.mapM header?
  some { method, uri, headers, body }

/-- The destination under which an authority is recorded: without the port if that is the
scheme's own. -/
def destination (scheme authority : String) : String :=
  match Http.Uri.portOf? authority with
  | some port =>
    if (scheme = "https" && port = 443) || (scheme = "http" && port = 80) then
      Http.Uri.hostOf authority
    else authority
  | none => authority

/-- The request in the engine's form. Header values are read as nearly as can be. -/
def request (r : ClientRequest) : Except ProxyError Request := do
  let some authority := r.uri.authority | throw (.http ("no authority in " ++ r.uri.render))
  let scheme := r.uri.scheme.getD "http"
  let headers := Headers.ofPairs (r.headers.map fun h => (h.1, Utf8.lossy h.2))
  match r.body with
  | .error reason => throw (.http ("failed to read request body: " ++ reason))
  | .ok body =>
    return { method := r.method, scheme, destination := destination scheme authority
             path := r.uri.path, query := r.uri.query.getD "", body, headers }

end ClientRequest

namespace Reply

/-- The headers of a response as HTTP can carry them, or the first thing that it cannot. -/
def headersOf : List (String × String) → Except String (List (String × String))
  | [] => .ok []
  | (name, value) :: rest =>
    if !Http.isName name then .error "invalid HTTP header name"
    else if !Http.isValue (Bytes.ofText value) then .error "failed to parse header value"
    else do
      let rest ← headersOf rest
      .ok ((Ascii.lower name, value) :: rest)

/-- A response as HTTP, without the headers of the connection. -/
def ofResponse? (r : Response) : Except String Reply := do
  if !Response.validStatus r.status then throw "invalid status code"
  let headers ← headersOf (Http.passedOn r.headers)
  return { status := r.status, headers, body := r.body }

/-- The reply when a response cannot be written. -/
def unwritable (reason : String) : Reply :=
  { status := 500
    body := Bytes.ofText
      ("Understudy Error! Could not build response. Got error: " ++ reason ++ "\n") }

/-- A response as HTTP, or the reply that says why it cannot be. -/
def ofResponse (r : Response) : Reply :=
  match ofResponse? r with
  | .ok reply => reply
  | .error reason => unwritable reason

/-- The reply to requests that were meant for the proxy itself. -/
def toSelf : Reply :=
  ofResponse <| Response.addHeader
    { status := 500
      body := Bytes.ofText "This is a proxy server. Does not respond to non-proxy requests." }
    "Content-Type" "text/plain"

end Reply

namespace Engine

/-- Whether the engine looks into the traffic to the host of a target. -/
def intercepts (e : Engine) (uri : Http.Uri) : Bool := uri.host?.any e.concerns

/-- Handles a client's request. -/
def handle (e : Engine) (s : Surroundings σ) (r : ClientRequest) : StateM σ (Handled × Engine) := do
  if r.method = "CONNECT" then return (.passed, e)
  match r.uri.host? with
  | none => return (.answered .toSelf, e)
  | some host =>
    if !e.concerns host then return (.passed, e)
    match r.request with
    | .error err =>
      return (.answered (.ofResponse (errorResponse 400 "Malformed request" err.message)), e)
    | .ok request =>
      let (response, e) ← e.process s request
      return (.answered (.ofResponse response), e)

end Engine

end ReplayProxy
