import ReplayProxy.Error

/-!
# Forwarding

A request is forwarded by sending its method, its headers but those of the connection, and
its body to the URL that it names. Redirections are returned and not followed. The response
comes back with one mark, the header `Understudy: Was-Here`; marks that it had before do
not stay.

Whether a request goes out is decided by its method, its URL and its headers one by one. A
client may have bounds of its own beyond these, on the length of what it asks for or on the
number of headers, and send nothing for a request that exceeds them: `Forward.outgoing` has
no such bound, so that more requests go out than do from such a client, but none to another
place or with other contents.
-/

namespace ReplayProxy

/-- How requests are forwarded. -/
structure ForwardSettings where
  /-- The seconds an exchange may take. -/
  timeout : Nat := 30
  /-- The seconds that connecting may take. -/
  connectTimeout : Nat := 10
  /-- Whether servers must prove who they are. -/
  verify : Bool := true
  deriving DecidableEq, Repr

namespace Forward

/-- The header that marks a response of a real destination. -/
def markName : String := "Understudy"

/-- The value of the mark. -/
def markValue : String := "Was-Here"

/-- The request that goes out for a request: its method must be a token, its URL one that
can be asked for, and its headers must be such as HTTP can carry. -/
def outgoing (settings : ForwardSettings) (r : Request) : Except ProxyError Outgoing := do
  if !Http.isToken r.method then
    throw (.http ("invalid method " ++ r.method ++ ": invalid HTTP method"))
  let some url := Url.parse? r.url | throw (.destination SendError.malformed.message)
  let headers := Http.passedOn r.headers
  if !(headers.all fun h => Http.isName h.1 && Http.isValue (Bytes.ofText h.2)) then
    throw (.destination SendError.malformed.message)
  return { method := r.method, url, body := r.body, followRedirects := false
           headers := Outgoing.headersFor url headers
           limit := some (settings.timeout * 1000), verify := settings.verify }

/-- The response for a reply: headers collected, values read as nearly as can be, and the
mark. -/
def response (incoming : Incoming) (body : Bytes) : Response :=
  let headers := Headers.ofPairs (incoming.headers.map fun h => (h.1, Utf8.lossy h.2))
  { status := incoming.status, body,
    headers := Headers.add (headers.erase markName) markName markValue }

/-- Sends a request to its destination. -/
def forward (settings : ForwardSettings) (s : Surroundings σ) (r : Request) :
    StateM σ (Except ProxyError Response) := do
  match outgoing settings r with
  | .error e => return .error e
  | .ok out =>
    match ← s.send out with
    | .failed reason => return .error (.destination (SendError.unanswered reason).message)
    | .overran => return .error (.destination (SendError.unanswered "operation timed out").message)
    | .reply incoming =>
      match incoming.body with
      | .error reason => return .error (.destination ("error reading the body: " ++ reason))
      | .ok body => return .ok (response incoming body)

end Forward

end ReplayProxy
