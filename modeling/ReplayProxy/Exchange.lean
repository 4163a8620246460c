import ReplayProxy.Headers
import ReplayProxy.Text.Bytes

/-!
# Exchanges

A request, the response to it, and the two together: an `Exchange`, which is what is
recorded and replayed. Bodies are raw bytes.
-/

namespace ReplayProxy

/-- A request as a client made it. -/
structure Request where
  method : String := ""
  /-- `http` or `https`; nothing means `http`. -/
  scheme : String := ""
  /-- The host, and the port unless it is the scheme's own. -/
  destination : String := ""
  path : String := ""
  /-- The query without its question mark. -/
  query : String := ""
  body : Bytes := []
  headers : Headers := ∅
  deriving DecidableEq

/-- A response: real, recorded or made up. -/
structure Response where
  status : UInt16 := 0
  body : Bytes := []
  headers : Headers := ∅
  deriving DecidableEq

/-- A request with its response; the unit of recording. -/
structure Exchange where
  request : Request := {}
  response : Response := {}
  /-- How the exchange came about, if anyone said. -/
  kind : Option String := none
  deriving DecidableEq

namespace Request

/-- The absolute URL that the request names. -/
def url (r : Request) : String :=
  let scheme := if r.scheme.isEmpty then "http" else r.scheme
  let base := scheme ++ "://" ++ r.destination ++ r.path
  if r.query.isEmpty then base else base ++ "?" ++ r.query

/-- Adds a header value. -/
def addHeader (r : Request) (name value : String) : Request :=
  { r with headers := r.headers.add name value }

end Request

namespace Response

/-- Adds a header value. -/
def addHeader (r : Response) (name value : String) : Response :=
  { r with headers := r.headers.add name value }

/-- Whether the body cannot travel as text: it is compressed (some `Content-Encoding` is
given) or it is not text. -/
def needsEncoding (r : Response) : Bool :=
  !(r.headers.values "Content-Encoding").isEmpty || !r.body.isText

/-- Whether a number is a status that HTTP can carry. -/
def validStatus (status : UInt16) : Bool := 100 ≤ status && status ≤ 999

end Response

end ReplayProxy
