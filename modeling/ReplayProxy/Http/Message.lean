import ReplayProxy.Exchange

/-!
# What HTTP can carry

Not every text can be a method, a header name or a header value, and not every number a
status. Methods and names are *tokens*; names have no case and are written small; values
hold no control character but the tab. Some headers belong to one connection and are never
passed on.
-/

namespace ReplayProxy.Http

/-- A character of a token. -/
def isTokenChar (c : Char) : Bool :=
  Ascii.isAlphanumeric c || "!#$%&'*+-.^_\x60|~".toList.contains c

/-- Whether a text is a token: not empty, and of token characters alone. -/
def isToken (s : String) : Bool := !s.isEmpty && s.toList.all isTokenChar

/-- The greatest length of a header name. -/
def nameLimit : Nat := 65535

/-- Whether a text can be a header name. -/
def isName (s : String) : Bool := isToken s && s.length ≤ nameLimit

/-- Whether a byte can stand in a header value. -/
def isValueByte (b : UInt8) : Bool := b == 0x09 || (0x20 ≤ b && b != 0x7F)

/-- Whether bytes can be a header value. -/
def isValue (b : Bytes) : Bool := b.all isValueByte

/-- The headers that belong to one connection. -/
def connectionHeaders : List String :=
  ["connection", "proxy-connection", "keep-alive", "proxy-authorization", "te", "trailer",
   "transfer-encoding", "upgrade", "host", "content-length"]

/-- Whether a header belongs to one connection, in any spelling. -/
def isHopByHop (name : String) : Bool := connectionHeaders.any fun h => Ascii.sameLetters h name

/-- The headers that are passed on, one entry for each value. -/
def passedOn (headers : Headers) : List (String × String) :=
  (headers.toList.filter fun entry => !isHopByHop entry.1).flatMap fun entry =>
    entry.2.map fun value => (entry.1, value)

/-- The reason phrases of the statuses. -/
def reasons : List (Nat × String) := [
  (100, "Continue"), (101, "Switching Protocols"), (102, "Processing"), (103, "Early Hints"),
  (200, "OK"), (201, "Created"), (202, "Accepted"), (203, "Non Authoritative Information"),
  (204, "No Content"), (205, "Reset Content"), (206, "Partial Content"), (207, "Multi-Status"),
  (208, "Already Reported"), (226, "IM Used"), (300, "Multiple Choices"),
  (301, "Moved Permanently"), (302, "Found"), (303, "See Other"), (304, "Not Modified"),
  (305, "Use Proxy"), (307, "Temporary Redirect"), (308, "Permanent Redirect"),
  (400, "Bad Request"), (401, "Unauthorized"), (402, "Payment Required"), (403, "Forbidden"),
  (404, "Not Found"), (405, "Method Not Allowed"), (406, "Not Acceptable"),
  (407, "Proxy Authentication Required"), (408, "Request Timeout"), (409, "Conflict"),
  (410, "Gone"), (411, "Length Required"), (412, "Precondition Failed"),
  (413, "Payload Too Large"), (414, "URI Too Long"), (415, "Unsupported Media Type"),
  (416, "Range Not Satisfiable"), (417, "Expectation Failed"), (418, "I'm a teapot"),
  (421, "Misdirected Request"), (422, "Unprocessable Entity"), (423, "Locked"),
  (424, "Failed Dependency"), (425, "Too Early"), (426, "Upgrade Required"),
  (428, "Precondition Required"), (429, "Too Many Requests"),
  (431, "Request Header Fields Too Large"), (451, "Unavailable For Legal Reasons"),
  (500, "Internal Server Error"), (501, "Not Implemented"), (502, "Bad Gateway"),
  (503, "Service Unavailable"), (504, "Gateway Timeout"), (505, "HTTP Version Not Supported"),
  (506, "Variant Also Negotiates"), (507, "Insufficient Storage"), (508, "Loop Detected"),
  (510, "Not Extended"), (511, "Network Authentication Required")]

/-- A status with its reason phrase. -/
def statusText (status : UInt16) : String :=
  toString status.toNat ++ " " ++
    (reasons.lookup status.toNat).getD "<unknown status code>"

end ReplayProxy.Http
