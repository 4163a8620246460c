import ReplayProxy.Exchange
import ReplayProxy.Json.Value
import ReplayProxy.Mode
import ReplayProxy.Text.Base64

/-!
# The JSON form of exchanges

Exchanges are stored, exported, imported and handed to transforms as JSON. A `…Form` is
that form as a record. It differs from the exchange in its bodies: a body that is text
stands as it is, any other as base64 with the flag `encodedBody`. A compressed response
body is encoded even when it happens to be text.

Writing keeps the order of the fields below. A request's flag is written only when set, a
response's always. Reading puts all header names into their canonical spelling.
-/

namespace ReplayProxy

open Json (Value Tree Fault RecordField)

/-- Why stored or received text is no exchange. -/
inductive EncodingError where
  | json (fault : Fault)
  /-- A body flagged as base64 is not. -/
  | base64
  deriving DecidableEq, Repr

/-- The sentence on an encoding error. -/
def EncodingError.message : EncodingError → String
  | .json f => "JSON error: " ++ f.message
  | .base64 => "invalid base64 body: not base64 with padding"

/-- The JSON form of a request. -/
structure RequestForm where
  kind : Option String := none
  path : String := ""
  method : String := ""
  destination : String := ""
  scheme : String := ""
  query : String := ""
  body : String := ""
  encodedBody : Bool := false
  headers : Headers := ∅

/-- The JSON form of a response. -/
structure ResponseForm where
  status : UInt16 := 0
  body : String := ""
  encodedBody : Bool := false
  headers : Headers := ∅

/-- The JSON form of an exchange. -/
structure ExchangeForm where
  request : RequestForm := {}
  response : ResponseForm := {}

/-- Exported exchanges: the form in which records are listed and imported. -/
structure Archive where
  data : List ExchangeForm := []

/-- What a transform is given and gives back: one exchange and an identifier. -/
structure Payload where
  request : RequestForm := {}
  response : ResponseForm := {}
  id : String := ""

/-- A body as text, and whether the text is base64. -/
def bodyForm (body : Bytes) (encode : Bool) : String × Bool :=
  match body.text?, encode with
  | some s, false => (s, false)
  | _, _ => (Base64.encode body, true)

/-- The body that a form stands for. -/
def bodyOfForm (text : String) (encoded : Bool) : Except EncodingError Bytes :=
  if encoded then
    match Base64.decode? text with
    | some b => .ok b
    | none => .error .base64
  else .ok (Bytes.ofText text)

namespace RequestForm

/-- The form of a request. -/
def ofRequest (r : Request) (kind : Option String) : RequestForm :=
  let (body, encodedBody) := bodyForm r.body false
  { kind, path := r.path, method := r.method, destination := r.destination, scheme := r.scheme,
    query := r.query, body, encodedBody, headers := r.headers }

/-- The request of a form. -/
def request (f : RequestForm) : Except EncodingError Request := do
  let body ← bodyOfForm f.body f.encodedBody
  return { method := f.method, scheme := f.scheme, destination := f.destination, path := f.path,
           query := f.query, body, headers := f.headers.canonical }

end RequestForm

namespace ResponseForm

/-- The form of a response. -/
def ofResponse (r : Response) : ResponseForm :=
  let (body, encodedBody) := bodyForm r.body r.needsEncoding
  { status := r.status, body, encodedBody, headers := r.headers }

/-- The response of a form. -/
def response (f : ResponseForm) : Except EncodingError Response := do
  let body ← bodyOfForm f.body f.encodedBody
  return { status := f.status, body, headers := f.headers.canonical }

end ResponseForm

namespace ExchangeForm

/-- The form of an exchange. -/
def ofExchange (x : Exchange) : ExchangeForm :=
  ⟨.ofRequest x.request x.kind, .ofResponse x.response⟩

/-- The exchange of a form. The body of the request is decoded first. -/
def exchange (f : ExchangeForm) : Except EncodingError Exchange := do
  let request ← f.request.request
  let response ← f.response.response
  return { request, response, kind := f.request.kind }

end ExchangeForm

namespace Payload

/-- The payload for an exchange. -/
def ofExchange (x : Exchange) (id : String) : Payload :=
  let form := ExchangeForm.ofExchange x
  ⟨form.request, form.response, id⟩

/-- The exchange in a payload. -/
def exchange (p : Payload) : Except EncodingError Exchange :=
  ExchangeForm.exchange ⟨p.request, p.response⟩

end Payload

/-! ### Writing -/

namespace Headers

/-- Headers as an object of lists. -/
def toValue (headers : Headers) : Value :=
  .object (headers.toList.map fun entry => (entry.1, .array (entry.2.map .string)))

end Headers

/-- A text or nothing. -/
def textOrNull : Option String → Value
  | some s => .string s
  | none => .null

/-- A request's form as JSON. -/
def RequestForm.toValue (f : RequestForm) : Value :=
  .object <|
    [("requestType", textOrNull f.kind), ("path", .string f.path), ("method", .string f.method),
     ("destination", .string f.destination), ("scheme", .string f.scheme),
     ("query", .string f.query), ("body", .string f.body)] ++
    (if f.encodedBody then [("encodedBody", .boolean true)] else []) ++
    [("headers", f.headers.toValue)]

/-- A response's form as JSON. -/
def ResponseForm.toValue (f : ResponseForm) : Value :=
  .object
    [("status", .nat f.status.toNat), ("body", .string f.body),
     ("encodedBody", .boolean f.encodedBody), ("headers", f.headers.toValue)]

/-- An exchange's form as JSON. -/
def ExchangeForm.toValue (f : ExchangeForm) : Value :=
  .object [("request", f.request.toValue), ("response", f.response.toValue)]

/-- An archive as JSON. -/
def Archive.toValue (a : Archive) : Value := .object [("data", .array (a.data.map (·.toValue)))]

/-- A payload as JSON. -/
def Payload.toValue (p : Payload) : Value :=
  .object [("request", p.request.toValue), ("response", p.response.toValue), ("id", .string p.id)]

/-! ### Reading -/

namespace Headers

/-- Reads an object of lists. Of two members with one name the last counts. -/
def ofTree (t : Tree) : Except Fault Headers := do
  let members ← t.asMembers (Tree.asList Tree.asText)
  return members.foldl (fun headers m => headers.insert m.1 m.2) ∅

end Headers

namespace RequestForm

/-- The fields of a request, in their order. -/
def fields : List (RecordField RequestForm) := [
  .optional "requestType" Tree.asText? fun v f => { f with kind := v },
  .optional "path" Tree.asText fun v f => { f with path := v },
  .optional "method" Tree.asText fun v f => { f with method := v },
  .optional "destination" Tree.asText fun v f => { f with destination := v },
  .optional "scheme" Tree.asText fun v f => { f with scheme := v },
  .optional "query" Tree.asText fun v f => { f with query := v },
  .optional "body" Tree.asText fun v f => { f with body := v },
  .optional "encodedBody" Tree.asBool fun v f => { f with encodedBody := v },
  .optional "headers" Headers.ofTree fun v f => { f with headers := v }]

/-- Reads a request's form. -/
def ofTree : Tree → Except Fault RequestForm := RecordField.readRecord fields {}

end RequestForm

namespace ResponseForm

/-- The fields of a response, in their order. -/
def fields : List (RecordField ResponseForm) := [
  .optional "status" Tree.asWord16 fun v f => { f with status := v },
  .optional "body" Tree.asText fun v f => { f with body := v },
  .optional "encodedBody" Tree.asBool fun v f => { f with encodedBody := v },
  .optional "headers" Headers.ofTree fun v f => { f with headers := v }]

/-- Reads a response's form. -/
def ofTree : Tree → Except Fault ResponseForm := RecordField.readRecord fields {}

end ResponseForm

namespace ExchangeForm

/-- The fields of an exchange; both must be there. -/
def fields : List (RecordField ExchangeForm) := [
  .mandatory "request" RequestForm.ofTree fun v f => { f with request := v },
  .mandatory "response" ResponseForm.ofTree fun v f => { f with response := v }]

/-- Reads an exchange's form. -/
def ofTree : Tree → Except Fault ExchangeForm := RecordField.readRecord fields {}

end ExchangeForm

namespace Archive

/-- The field of an archive. -/
def fields : List (RecordField Archive) := [
  .optional "data" (Tree.asList ExchangeForm.ofTree) fun v f => { f with data := v }]

/-- Reads an archive. -/
def ofTree : Tree → Except Fault Archive := RecordField.readRecord fields {}

/-- The archive that a text writes. -/
def parse (s : Bytes) : Except Fault Archive := Json.decode ofTree s

/-- The text of an archive. -/
def text (a : Archive) : String := a.toValue.render

end Archive

namespace Payload

/-- The fields of a payload, in their order. -/
def fields : List (RecordField Payload) := [
  .optional "request" RequestForm.ofTree fun v p => { p with request := v },
  .optional "response" ResponseForm.ofTree fun v p => { p with response := v },
  .optional "id" Tree.asText fun v p => { p with id := v }]

/-- Reads a payload. -/
def ofTree : Tree → Except Fault Payload := RecordField.readRecord fields {}

/-- The payload that a text writes. -/
def parse (s : Bytes) : Except Fault Payload := Json.decode ofTree s

/-- The text of a payload. -/
def text (p : Payload) : String := p.toValue.render

end Payload

namespace Mode

/-- The mode of a name. -/
def ofText (s : String) : Except Fault Mode :=
  match ofName? s with
  | some m => .ok m
  | none => .error .mismatch

/-- Reads a mode: its exact name, or an object with the name as the name of its one member,
whose value is `null`. -/
def ofTree : Tree → Except Fault Mode
  | .string (some s) => ofText s
  | .object [(some s, .null)] true => ofText s
  | .object _ _ => .error .mismatch
  | t => .error t.unexpected

/-- A mode as JSON. -/
def toValue (m : Mode) : Value := .string m.name

end Mode

namespace Exchange

/-- The stored form of an exchange. -/
def encode (x : Exchange) : Bytes := (ExchangeForm.ofExchange x).toValue.bytes

/-- The exchange of a stored form. -/
def decode (s : Bytes) : Except EncodingError Exchange :=
  match Json.decode ExchangeForm.ofTree s with
  | .ok form => form.exchange
  | .error e => .error (.json e)

end Exchange

end ReplayProxy
