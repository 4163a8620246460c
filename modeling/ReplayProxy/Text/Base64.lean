import ReplayProxy.Text.Bytes

/-!
# Base64

Bodies that are not text travel as base64: three bytes become four letters of the standard
alphabet, and a last group of one or two bytes is padded with `=`.

The reader is strict. It takes exactly what the writer produces: padding is required, the
bits that a padded group leaves over must be zero, and no other character is skipped.
-/

namespace ReplayProxy.Base64

/-- The letter for a value below sixty-four. -/
def letter (n : Nat) : Char :=
  if n < 26 then Char.ofNat (n + 65)
  else if n < 52 then Char.ofNat (n + 71)
  else if n < 62 then Char.ofNat (n - 4)
  else if n = 62 then '+'
  else '/'

/-- The value of a letter of the alphabet. -/
def value? (c : Char) : Option Nat :=
  let n := c.toNat
  if 65 ≤ n ∧ n ≤ 90 then some (n - 65)
  else if 97 ≤ n ∧ n ≤ 122 then some (n - 71)
  else if 48 ≤ n ∧ n ≤ 57 then some (n + 4)
  else if c = '+' then some 62
  else if c = '/' then some 63
  else none

/-- The letters of one full group. -/
def group (a b c : UInt8) : List Char :=
  let n := a.toNat * 65536 + b.toNat * 256 + c.toNat
  [letter (n / 262144), letter (n / 4096 % 64), letter (n / 64 % 64), letter (n % 64)]

/-- The letters for a byte string, `done` (reversed) being those written so far. -/
def encodeOnto (done : List Char) : Bytes → List Char
  | a :: b :: c :: rest => encodeOnto ((group a b c).reverse ++ done) rest
  | [a, b] =>
    let n := a.toNat * 1024 + b.toNat * 4
    done.reverse ++ [letter (n / 4096), letter (n / 64 % 64), letter (n % 64), '=']
  | [a] =>
    let n := a.toNat * 16
    done.reverse ++ [letter (n / 64), letter (n % 64), '=', '=']
  | [] => done.reverse

/-- The base64 form of a byte string. -/
def encode (b : Bytes) : String := String.ofList (encodeOnto [] b)

/-- The byte at a place of a number. -/
def byteAt (n scale : Nat) : UInt8 := UInt8.ofNat (n / scale % 256)

/-- The bytes of a padded last group, or of a full one. -/
def decodeGroup (a b c d : Char) : Option Bytes := do
  let x ← value? a
  let y ← value? b
  if c = '=' then
    if d = '=' ∧ y % 16 = 0 then some [byteAt (x * 64 + y) 16] else none
  else do
    let z ← value? c
    if d = '=' then
      let n := x * 4096 + y * 64 + z
      if z % 4 = 0 then some [byteAt n 1024, byteAt n 4] else none
    else do
      let w ← value? d
      let n := x * 262144 + y * 4096 + z * 64 + w
      some [byteAt n 65536, byteAt n 256, byteAt n 1]

/-- Reads groups of four letters, `done` (reversed) being the bytes read so far. A group
with padding must be the last. -/
def decodeOnto (done : Bytes) : List Char → Option Bytes
  | [] => some done.reverse
  | a :: b :: c :: d :: rest =>
    match decodeGroup a b c d with
    | none => none
    | some g =>
      if g.length < 3 ∧ !rest.isEmpty then none
      else decodeOnto (g.reverse ++ done) rest
  | _ => none

/-- The byte string that a text is the base64 form of. -/
def decode? (s : String) : Option Bytes := decodeOnto [] s.toList

end ReplayProxy.Base64
