import ReplayProxy.Address
import ReplayProxy.Text.Utf8

/-!
# URLs

How a client reads the text of an `http` or `https` URL, by the rules of the WHATWG URL
Standard: blanks around it and line breaks in it are dropped, backslashes count as slashes,
everything between the slashes after the scheme and the next slash, question mark or number
sign is the *authority*, and its last at sign ends the user information. Host names are
percent-decoded and put into small letters, `.` and `..` are resolved in the path, and
characters that cannot stand in a path or query are percent-encoded.

So what is contacted and asked for need not be what the text seems to say: the path that a
server receives is `Url.path`, and the host that is contacted is `Url.host`.

Host names are taken in ASCII. A name with other characters names no host here, where the
standard maps it to a name in ASCII or refuses it. The authority of a request that a client
sends is in ASCII (`Http.Uri.inAuthority`).
-/

namespace ReplayProxy

/-- The host of a URL. -/
inductive Host where
  | name (value : String)
  | v4 (address : Ipv4)
  | v6 (address : Ipv6)
  deriving DecidableEq, Repr

/-- An absolute `http` or `https` URL. -/
structure Url where
  /-- Whether the scheme is `https`. -/
  secure : Bool
  /-- User name and password. -/
  credentials : Option (String × String)
  host : Host
  /-- The port, unless it is the scheme's own. -/
  port : Option Nat
  path : String
  query : Option String
  deriving DecidableEq, Repr

namespace Url

/-- The port of the scheme. -/
def defaultPort (secure : Bool) : Nat := if secure then 443 else 80

/-- The port that is contacted. -/
def effectivePort (u : Url) : Nat := u.port.getD (defaultPort u.secure)

/-- The path and query that a server is asked for. -/
def target (u : Url) : String :=
  match u.query with
  | some q => u.path ++ "?" ++ q
  | none => u.path

/-! ### Percent-encoding -/

/-- A byte as a percent sign and two digits. -/
def percentByte (b : UInt8) : List Char :=
  ['%', (Nat.digitChar (b.toNat / 16)).toUpper, (Nat.digitChar (b.toNat % 16)).toUpper]

/-- Percent-encodes the characters of a set. -/
def encode (reserved : Char → Bool) (cs : List Char) : List Char :=
  cs.flatMap fun c => if reserved c then (Utf8.encodeChar c).flatMap percentByte else [c]

/-- Control characters and everything beyond ASCII. -/
def isControl (c : Char) : Bool := c.toNat < 0x20 || c.toNat > 0x7E

/-- What a path cannot hold. -/
def inPath (c : Char) : Bool :=
  isControl c || [' ', '"', '#', '<', '>', '?', '^', '\x60', '\x7b', '\x7d'].contains c

/-- What the query of these schemes cannot hold. -/
def inQuery (c : Char) : Bool := isControl c || [' ', '"', '#', '<', '>', '\''].contains c

/-- What user information cannot hold. -/
def inUser (c : Char) : Bool :=
  inPath c || ['/', ':', ';', '=', '@', '[', '\\', ']', '|'].contains c

/-- Resolves percent-encoded bytes. -/
def percentDecode : Bytes → Bytes
  | 0x25 :: a :: b :: rest =>
    match Ascii.hexValue? (Char.ofNat a.toNat), Ascii.hexValue? (Char.ofNat b.toNat) with
    | some x, some y => UInt8.ofNat (x * 16 + y) :: percentDecode rest
    | _, _ => 0x25 :: percentDecode (a :: b :: rest)
  | x :: rest => x :: percentDecode rest
  | [] => []

/-! ### Hosts -/

/-- What no host name holds. -/
def forbidden (c : Char) : Bool :=
  isControl c ||
    [' ', '#', '/', ':', '<', '>', '?', '@', '[', '\\', ']', '^', '|', '%'].contains c

/-- A number as it may stand in an IPv4 address: decimal, octal after `0`, hexadecimal after
`0x`. -/
def ipv4Number? (cs : List Char) : Option Nat :=
  let (base, digits) := match cs with
    | '0' :: 'x' :: rest => (16, rest)
    | '0' :: 'X' :: rest => (16, rest)
    | '0' :: c :: rest => (8, c :: rest)
    | cs => (10, cs)
  if cs.isEmpty then none
  else
    digits.foldl
      (fun n c => do
        let d ← Ascii.hexValue? c
        if d < base then some ((← n) * base + d) else none)
      (some 0)

/-- The labels of a name, without an empty last one. -/
def labels (cs : List Char) : List (List Char) :=
  let parts := cs.splitOn '.'
  if parts.length > 1 && parts.getLastD [] == [] then parts.dropLast else parts

/-- Whether the last label of a name is a number. -/
def endsInNumber (cs : List Char) : Bool :=
  match (labels cs).getLast? with
  | none => false
  | some last =>
    (!last.isEmpty && last.all Ascii.isDigit) ||
      match last with
      | '0' :: 'x' :: _ | '0' :: 'X' :: _ => (ipv4Number? last).isSome
      | _ => false

/-- The IPv4 address of up to four numbers, the last of which fills the rest. -/
def ipv4? (cs : List Char) : Option Ipv4 := do
  let numbers ← (labels cs).mapM ipv4Number?
  if numbers.length > 4 then none
  let last ← numbers.getLast?
  let front := numbers.dropLast
  if front.any (· > 255) || last ≥ Nat.pow 256 (5 - numbers.length) then none
  let n := last + (front.zipIdx.map fun (x, i) => x * Nat.pow 256 (3 - i)).foldl (· + ·) 0
  some ⟨UInt8.ofNat (n / 16777216), UInt8.ofNat (n / 65536 % 256), UInt8.ofNat (n / 256 % 256),
    UInt8.ofNat (n % 256)⟩

/-- The host that a text names; after percent-decoding it must be in ASCII. -/
def host? (cs : List Char) : Option Host :=
  match cs with
  | '[' :: rest =>
    if rest.getLast? = some ']' then (Address.whole (Address.ipv6? rest.dropLast)).map .v6 else none
  | cs => do
    let text ← Bytes.text? (percentDecode (Bytes.ofText (String.ofList cs)))
    let name := (Ascii.lower text).toList
    if name.isEmpty || name.any forbidden then none
    else if endsInNumber name then (ipv4? name).map .v4
    else some (.name (String.ofList name))

/-! ### Paths -/

/-- One dot, perhaps encoded. -/
def isDot (cs : List Char) : Bool :=
  let s := (String.ofList cs).toLower
  s == "." || s == "%2e"

/-- Two dots, perhaps encoded. -/
def isDots (cs : List Char) : Bool :=
  let s := (String.ofList cs).toLower
  s == ".." || s == ".%2e" || s == "%2e." || s == "%2e%2e"

/-- Resolves dots in the segments of a path; `done` (reversed) holds those before. -/
def resolve (done : List (List Char)) : List (List Char) → List (List Char)
  | [] => done.reverse
  | [s] =>
    if isDots s then ([] :: done.tail).reverse
    else if isDot s then ([] :: done).reverse
    else (encode inPath s :: done).reverse
  | s :: rest =>
    if isDots s then resolve done.tail rest
    else if isDot s then resolve done rest
    else resolve (encode inPath s :: done) rest

/-- The resolved path of what follows an authority. -/
def resolvedPath (cs : List Char) : String :=
  let cs := cs.map fun c => if c = '\\' then '/' else c
  let cs := match cs with
    | '/' :: rest => rest
    | cs => cs
  String.ofList ('/' :: ['/'].intercalate (resolve [] (cs.splitOn '/')))

/-! ### The whole -/

/-- The scheme at the front: whether it is `https`. -/
def scheme? (cs : List Char) : Option (Bool × List Char) :=
  let name := (String.ofList (cs.takeWhile (· != ':'))).toLower
  match cs.dropWhile (· != ':') with
  | _ :: rest =>
    if name = "http" then some (false, rest)
    else if name = "https" then some (true, rest)
    else none
  | [] => none

/-- What ends an authority. -/
def endsAuthority (c : Char) : Bool := c == '/' || c == '\\' || c == '?' || c == '#'

/-- Splits at the last at sign. -/
def splitUser (cs : List Char) : Option (List Char) × List Char :=
  let back := cs.reverse
  match back.dropWhile (· != '@') with
  | _ :: user => (some user.reverse, (back.takeWhile (· != '@')).reverse)
  | [] => (none, cs)

/-- User name and password of user information; nothing if both are empty. -/
def credentialsOf (user : List Char) : Option (String × String) :=
  let name := user.takeWhile (· != ':')
  let password := (user.dropWhile (· != ':')).drop 1
  if name.isEmpty && password.isEmpty then none
  else some (String.ofList (encode inUser name), String.ofList (encode inUser password))

/-- Splits a host from the digits of a port. A colon inside brackets belongs to the host. -/
def splitPort (cs : List Char) : List Char × Option (List Char) :=
  let inside := match cs with
    | '[' :: _ => cs.takeWhile (· != ']')
    | _ => []
  let rest := cs.drop inside.length
  match rest.dropWhile (· != ':') with
  | _ :: digits => (inside ++ rest.takeWhile (· != ':'), some digits)
  | [] => (cs, none)

/-- The port that digits name, `some none` for the scheme's own. -/
def port? (secure : Bool) (digits : List Char) : Option (Option Nat) :=
  if digits.isEmpty then some none
  else do
    let n ← Ascii.decimal? digits
    if n > 65535 then none
    else some (if n = defaultPort secure then none else some n)

/-- Drops the control characters and blanks at both ends and the line breaks and tabs
inside. -/
def clean (cs : List Char) : List Char :=
  let outer (c : Char) : Bool := c.toNat ≤ 0x20
  (((cs.dropWhile outer).reverse.dropWhile outer).reverse).filter fun c =>
    c != '\t' && c != '\n' && c != '\r'

/-- The URL that a text writes. -/
def parse? (s : String) : Option Url := do
  let (secure, rest) ← scheme? (clean s.toList)
  let rest := rest.dropWhile fun c => c == '/' || c == '\\'
  let authority := rest.takeWhile fun c => !endsAuthority c
  let rest := (rest.dropWhile fun c => !endsAuthority c).takeWhile (· != '#')
  let (user, place) := splitUser authority
  let (name, digits) := splitPort place
  let host ← host? name
  let port ← port? secure (digits.getD [])
  let query := match rest.dropWhile (· != '?') with
    | _ :: q => some (String.ofList (encode inQuery q))
    | [] => none
  some
    { secure, host, port, query
      credentials := user.bind credentialsOf
      path := resolvedPath (rest.takeWhile (· != '?')) }

end Url

end ReplayProxy
