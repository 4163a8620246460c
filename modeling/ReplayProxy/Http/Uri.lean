import ReplayProxy.Text.Ascii

/-!
# Request targets

A request names its target by a URI in one of four forms: absolute
(`http://host/path?query`), a path with an optional query, an authority alone
(`host:port`), or an asterisk. The parts are kept as they are written; a fragment is
dropped.

An authority is user information up to its last at sign, a host, which may be in brackets,
and a port after a colon. Percent signs stand in user information and brackets only.
-/

namespace ReplayProxy.Http

/-- The target of a request. -/
structure Uri where
  scheme : Option String
  authority : Option String
  /-- The path as it is written, perhaps nothing. -/
  writtenPath : String
  query : Option String
  deriving DecidableEq, Repr

namespace Uri

/-- The greatest number of bytes of a target. -/
def sizeLimit : Nat := 65534

/-- The greatest length of a scheme. -/
def schemeLimit : Nat := 64

/-- A character that an authority may hold besides the percent sign. -/
def inAuthority (c : Char) : Bool :=
  Ascii.isAlphanumeric c || "!#$&'()*+,-./:;=?@[]_~".toList.contains c

/-- What ends an authority. -/
def endsAuthority (c : Char) : Bool := c == '/' || c == '?' || c == '#'

/-- A character that a path may hold. -/
def inPath (c : Char) : Bool :=
  let n := c.toNat
  n == 0x21 || n == 0x22 || (0x24 ≤ n && n ≤ 0x3B) || n == 0x3D || (0x40 ≤ n && n ≤ 0x5F) ||
    0x61 ≤ n

/-- A character that a query may hold. -/
def inQuery (c : Char) : Bool :=
  let n := c.toNat
  n == 0x21 || (0x24 ≤ n && n ≤ 0x3B) || n == 0x3D || 0x3F ≤ n

/-! ### Authorities -/

/-- Where the reading of an authority stands. -/
structure Scan where
  /-- The colons since the last at sign or closing bracket. -/
  colons : Nat := 0
  opened : Bool := false
  closed : Bool := false
  /-- A percent sign since the last at sign or closing bracket. -/
  percent : Bool := false
  /-- The last character was an at sign. -/
  atSign : Bool := false

/-- Reads a character of an authority. -/
def Scan.step (s : Scan) (c : Char) : Option Scan :=
  let t := { s with atSign := false }
  if c = ':' then if s.colons ≥ 8 then none else some { t with colons := s.colons + 1 }
  else if c = '[' then if s.percent || s.opened then none else some { t with opened := true }
  else if c = ']' then
    if !s.opened || s.closed then none
    else some { t with closed := true, colons := 0, percent := false }
  else if c = '@' then some { s with colons := 0, percent := false, atSign := true }
  else if c = '%' then some { t with percent := true }
  else if inAuthority c then some t
  else none

/-- Whether an authority may end here. -/
def Scan.complete (s : Scan) : Bool :=
  s.opened == s.closed && s.colons ≤ 1 && !s.atSign && !s.percent

/-- Whether characters make up an authority. -/
def isAuthority (cs : List Char) : Bool :=
  match cs.foldlM Scan.step ({} : Scan) with
  | some s => s.complete
  | none => false

/-- The authority that a text writes by itself. -/
def authority? (s : String) : Option String :=
  if s.isEmpty || s.toList.any endsAuthority || !isAuthority s.toList then none else some s

/-- The host of an authority, with its brackets if it has some. -/
def hostOf (authority : String) : String :=
  let place := (authority.toList.reverse.takeWhile (· != '@')).reverse
  String.ofList <|
    match place with
    | '[' :: _ => place.takeWhile (· != ']') ++ [']']
    | _ => place.takeWhile (· != ':')

/-- The port of an authority: what follows its last colon, if that is a number of sixteen
bits. -/
def portOf? (authority : String) : Option UInt16 :=
  let back := authority.toList.reverse
  if !back.contains ':' then none
  else
    let digits := (back.takeWhile (· != ':')).reverse
    let digits := match digits with
      | '+' :: rest => rest
      | _ => digits
    match Ascii.decimal? digits with
    | some n => if n ≤ 65535 then some (UInt16.ofNat n) else none
    | none => none

/-! ### Whole targets -/

/-- Splits a path from its query. Both must hold only what they may. -/
def pathAndQuery? (cs : List Char) : Option (String × Option String) :=
  let path := cs.takeWhile fun c => c != '?' && c != '#'
  let query := match cs.drop path.length with
    | '?' :: rest => some (rest.takeWhile (· != '#'))
    | _ => none
  if path.all inPath && query.all (·.all inQuery) then
    some (String.ofList path, query.map String.ofList)
  else none

/-- Splits a scheme off the front. The schemes of the web are written in small letters;
others stay as they are. `none` if the scheme is too long. -/
def scheme? (cs : List Char) : Option (Option String × List Char) :=
  let name := cs.takeWhile fun c => Ascii.isAlphanumeric c || c == '+' || c == '-' || c == '.'
  match cs.drop name.length with
  | ':' :: '/' :: '/' :: rest =>
    let s := String.ofList name
    let small := Ascii.lower s
    if small = "http" || small = "https" then some (some small, rest)
    else if cs.length ≤ 3 then some (none, cs)
    else if name.length > schemeLimit then none
    else some (some s, rest)
  | _ => some (none, cs)

/-- The target that a text writes. -/
def parse? (s : String) : Option Uri :=
  let cs := s.toList
  if s.utf8ByteSize > sizeLimit then none
  else if s = "*" then some ⟨none, none, "*", none⟩
  else
    match cs with
    | [] => none
    | '/' :: _ => (pathAndQuery? cs).map fun (path, query) => ⟨none, none, path, query⟩
    | _ =>
      match scheme? cs with
      | none => none
      | some (none, _) => (authority? s).map fun a => ⟨none, some a, "", none⟩
      | some (some scheme, rest) => do
        let authority ← authority? (String.ofList (rest.takeWhile fun c => !endsAuthority c))
        let (path, query) ← pathAndQuery? (rest.dropWhile fun c => !endsAuthority c)
        some ⟨some scheme, some authority, path, query⟩

/-- The path: a slash where an absolute target has none. -/
def path (u : Uri) : String :=
  if u.writtenPath.isEmpty && (u.scheme.isSome || u.query.isSome) then "/" else u.writtenPath

/-- The host of the authority. -/
def host? (u : Uri) : Option String := u.authority.map hostOf

/-- The text of a target. -/
def render (u : Uri) : String :=
  (match u.scheme with
    | some s => s ++ "://"
    | none => "") ++ u.authority.getD "" ++ u.path ++
    match u.query with
    | some q => "?" ++ q
    | none => ""

end Uri

end ReplayProxy.Http
