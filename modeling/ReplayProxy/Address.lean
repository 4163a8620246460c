import ReplayProxy.Text.Ascii

/-!
# Internet addresses

Addresses of IPv4 and IPv6 and the socket addresses made of them, with the strict textual
forms in which hosts are configured and certificates are named.

Four decimal numbers without leading zeros write an IPv4 address. An IPv6 address is
written by eight groups of up to four hexadecimal digits; one run of zero groups may be
left out as `::`, and the last two groups may be written as an IPv4 address. A socket
address is an address, in brackets if it is IPv6, a colon and a port.

Readers take what they recognise off the front of a list of characters.
-/

namespace ReplayProxy

/-- An IPv4 address. -/
structure Ipv4 where
  a : UInt8
  b : UInt8
  c : UInt8
  d : UInt8
  deriving DecidableEq, Repr

/-- An IPv6 address: eight groups of sixteen bits. -/
structure Ipv6 where
  groups : Vector UInt16 8
  deriving DecidableEq, Repr

/-- An internet address. -/
inductive IpAddress where
  | v4 (address : Ipv4)
  | v6 (address : Ipv6)
  deriving DecidableEq, Repr

/-- An address and a port. An IPv6 address may name the interface it belongs to. -/
inductive SocketAddress where
  | v4 (address : Ipv4) (port : UInt16)
  | v6 (address : Ipv6) (scope : UInt32) (port : UInt16)
  deriving DecidableEq, Repr

namespace Address

/-- The value of digits in a base. -/
def value (base : Nat) (digits : List Char) : Nat :=
  digits.foldl (fun n c => n * base + (Ascii.hexValue? c).getD 0) 0

/-- Whether a character is a digit in base ten, or in base sixteen. -/
def isDigit (base : Nat) (c : Char) : Bool :=
  if base = 16 then (Ascii.hexValue? c).isSome else Ascii.isDigit c

/-- Reads a number up to `greatest`: all digits at the front, of which there may be at most
`most`. A leading zero may be forbidden unless it stands alone. -/
def number? (base : Nat) (most : Option Nat) (zeros : Bool) (greatest : Nat) (cs : List Char) :
    Option (Nat × List Char) :=
  let digits := cs.takeWhile (isDigit base)
  let rest := cs.dropWhile (isDigit base)
  if digits.isEmpty || most.any (· < digits.length) ||
      (!zeros && digits.head? == some '0' && digits.length > 1) then none
  else
    let n := value base digits
    if n ≤ greatest then some (n, rest) else none

/-- Reads one character. -/
def char? (c : Char) : List Char → Option (List Char)
  | d :: rest => if d = c then some rest else none
  | [] => none

/-- Reads a number below two hundred and fifty-six. -/
def octet? (cs : List Char) : Option (UInt8 × List Char) :=
  (number? 10 (some 3) false 255 cs).map fun (n, rest) => (UInt8.ofNat n, rest)

/-- Reads an IPv4 address. -/
def ipv4? (cs : List Char) : Option (Ipv4 × List Char) := do
  let (a, cs) ← octet? cs
  let (b, cs) ← octet? (← char? '.' cs)
  let (c, cs) ← octet? (← char? '.' cs)
  let (d, cs) ← octet? (← char? '.' cs)
  some (⟨a, b, c, d⟩, cs)

/-- Reads a group of an IPv6 address. -/
def group? (cs : List Char) : Option (UInt16 × List Char) :=
  (number? 16 (some 4) true 65535 cs).map fun (n, rest) => (UInt16.ofNat n, rest)

/-- The two groups of an IPv4 address. -/
def groupsOf (x : Ipv4) : List UInt16 :=
  [UInt16.ofNat (x.a.toNat * 256 + x.b.toNat), UInt16.ofNat (x.c.toNat * 256 + x.d.toNat)]

/-- Skips the colon that stands before every group but the first. -/
def separator? (first : Bool) (cs : List Char) : Option (List Char) :=
  if first then some cs else char? ':' cs

/-- Reads at most `left` groups; the last two may be an IPv4 address, which the truth value
in the answer tells. -/
def groups : Nat → Bool → List Char → List UInt16 × Bool × List Char
  | 0, _, cs => ([], false, cs)
  | left + 1, first, cs =>
    match if 1 ≤ left then (separator? first cs).bind ipv4? else none with
    | some (x, rest) => (groupsOf x, true, rest)
    | none =>
      match (separator? first cs).bind group? with
      | some (g, rest) =>
        let (gs, embedded, rest) := groups left false rest
        (g :: gs, embedded, rest)
      | none => ([], false, cs)

/-- The address with these groups at its front, these at its end and zeros between. -/
def ofEnds (front back : List UInt16) : Ipv6 :=
  let all := front ++ List.replicate (8 - front.length - back.length) 0 ++ back
  ⟨Vector.ofFn fun i => (all[i.val]?).getD 0⟩

/-- Reads an IPv6 address. -/
def ipv6? (cs : List Char) : Option (Ipv6 × List Char) :=
  let (front, embedded, rest) := groups 8 true cs
  if front.length = 8 then some (ofEnds front [], rest)
  else if embedded then none
  else do
    let rest ← char? ':' (← char? ':' rest)
    let (back, _, rest) := groups (7 - front.length) true rest
    some (ofEnds front back, rest)

/-- Keeps a reading that leaves nothing. -/
def whole (r : Option (α × List Char)) : Option α :=
  match r with
  | some (a, []) => some a
  | _ => none

/-- Reads a port after its colon. -/
def port? (cs : List Char) : Option (UInt16 × List Char) := do
  let (n, rest) ← number? 10 none true 65535 (← char? ':' cs)
  some (UInt16.ofNat n, rest)

/-- Reads the interface of an address after a percent sign. -/
def scope? (cs : List Char) : Option (UInt32 × List Char) := do
  let (n, rest) ← number? 10 none true 4294967295 (← char? '%' cs)
  some (UInt32.ofNat n, rest)

end Address

namespace IpAddress

/-- The address that a text writes. -/
def parse? (s : String) : Option IpAddress :=
  match Address.whole (Address.ipv4? s.toList) with
  | some a => some (.v4 a)
  | none => (Address.whole (Address.ipv6? s.toList)).map .v6

/-- The bytes of an address. -/
def bytes : IpAddress → List UInt8
  | .v4 x => [x.a, x.b, x.c, x.d]
  | .v6 x =>
    x.groups.toList.flatMap fun g => [UInt8.ofNat (g.toNat / 256), UInt8.ofNat (g.toNat % 256)]

end IpAddress

namespace Ipv4

/-- The text of an address. -/
def render (x : Ipv4) : String :=
  toString x.a.toNat ++ "." ++ toString x.b.toNat ++ "." ++ toString x.c.toNat ++ "." ++
    toString x.d.toNat

end Ipv4

namespace Ipv6

/-- The hexadecimal text of a group, without leading zeros. -/
def groupText (g : UInt16) : String := String.ofList (Nat.toDigits 16 g.toNat)

/-- The number of zeros at the front. -/
def zeros (gs : List UInt16) : Nat := (gs.takeWhile (· == 0)).length

/-- The start and length of the longest run of zeros, the first of several. -/
def longestRun : Nat → List UInt16 → Nat × Nat
  | _, [] => (0, 0)
  | i, g :: rest =>
    let here := zeros (g :: rest)
    let (start, length) := longestRun (i + 1) rest
    if here ≥ length && here > 0 then (i, here) else (start, length)

/-- Groups with colons between. -/
def joined (gs : List UInt16) : String := String.intercalate ":" (gs.map groupText)

/-- The text of an address: the longest run of at least two zero groups is left out, and an
IPv4 address in the last two groups of a mapped address is written as such. -/
def render (x : Ipv6) : String :=
  let gs := x.groups.toList
  if gs.take 6 = [0, 0, 0, 0, 0, 0xFFFF] then
    let last := gs.drop 6 |>.flatMap fun g => [g.toNat / 256, g.toNat % 256]
    "::ffff:" ++ String.intercalate "." (last.map toString)
  else
    let (start, length) := longestRun 0 gs
    if length ≥ 2 then joined (gs.take start) ++ "::" ++ joined (gs.drop (start + length))
    else joined gs

end Ipv6

namespace SocketAddress

/-- The socket address that a text writes. -/
def parse? (s : String) : Option SocketAddress :=
  let cs := s.toList
  let v4 := do
    let (a, cs) ← Address.ipv4? cs
    let (p, cs) ← Address.port? cs
    some (SocketAddress.v4 a p, cs)
  let v6 := do
    let (a, cs) ← Address.ipv6? (← Address.char? '[' cs)
    let (scope, cs) := (Address.scope? cs).getD (0, cs)
    let (p, cs) ← Address.port? (← Address.char? ']' cs)
    some (SocketAddress.v6 a scope p, cs)
  match Address.whole v4 with
  | some x => some x
  | none => Address.whole v6

/-- What is said of a text that writes none. -/
def syntaxFault : String := "invalid socket address syntax"

/-- The text of a socket address. -/
def render : SocketAddress → String
  | .v4 a p => a.render ++ ":" ++ toString p.toNat
  | .v6 a scope p =>
    let zone := if scope = 0 then "" else "%" ++ toString scope.toNat
    "[" ++ a.render ++ zone ++ "]:" ++ toString p.toNat

/-- The socket address of a host and a port written side by side. -/
def ofHostPort? (host : String) (port : UInt16) : Option SocketAddress :=
  parse? (host ++ ":" ++ toString port.toNat)

end SocketAddress

end ReplayProxy
