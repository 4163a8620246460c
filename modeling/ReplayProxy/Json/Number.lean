import ReplayProxy.Binary64

/-!
# Numbers of JSON

A `Numeral` is a number as written; a `Number` is what it means. An integer between
`-2 ^ 63` and `2 ^ 64 - 1` keeps its value. Every other numeral, `-0` included, means a
finite double, and one beyond the greatest double means nothing.

A fraction or exponent is read in one pass: the first digits that fit into sixty-four bits
are collected and the power of ten is applied to them once, so the result is within a
rounding or two of the written value. What decides a number's text is `Number.render`.
-/

namespace ReplayProxy.Json

/-- A number as written: digits are values below ten, the most significant first. -/
structure Numeral where
  negative : Bool
  /-- The digits before the point. -/
  whole : List Nat
  /-- The digits after the point. -/
  fraction : List Nat
  /-- The sign (true for minus) and digits of the exponent of ten. -/
  exponent : Option (Bool × List Nat)
  deriving Repr, DecidableEq

/-- What a numeral means. -/
inductive Number where
  /-- An integer from `-2 ^ 63` to `2 ^ 64 - 1`. -/
  | int (value : Int)
  /-- A finite double. -/
  | real (value : Binary64)
  deriving Repr, DecidableEq

namespace Numeral

/-- The greatest value of sixty-four bits, `2 ^ 64 - 1`. -/
def wordMax : Nat := 18446744073709551615

/-- The digits that fit into sixty-four bits after `n`, and those left over. -/
def collect : Nat → List Nat → Nat × List Nat
  | n, [] => (n, [])
  | n, d :: rest => if n * 10 + d ≤ wordMax then collect (n * 10 + d) rest else (n, d :: rest)

/-- Divides by powers of ten beyond the table, then by what remains. A quotient of zero
ends the division. -/
def scaleDown : Nat → Magnitude → Nat → Option Magnitude
  | 0, x, _ => some x
  | fuel + 1, x, e =>
    if x.isZero then some x
    else if e ≤ 308 then do x.div (← Magnitude.powerOfTen e)
    else do scaleDown fuel (← x.div (← Magnitude.powerOfTen 308)) (e - 308)

/-- `n · 10 ^ e` as a double: `n` is rounded, and the result once more for each power of
ten applied. `none` beyond the greatest double. -/
def scale (n : Nat) (e : Int) : Option Magnitude := do
  let x ← Magnitude.ofRatio n 1
  if 0 ≤ e then
    if e ≤ 308 then x.mul (← Magnitude.powerOfTen e.toNat)
    else if x.isZero then some x else none
  else scaleDown (e.natAbs / 308 + 2) x e.natAbs

/-- The greatest exponent of ten that is read, `2 ^ 31 - 1`. -/
def exponentMax : Nat := 2147483647

/-- The value of a written exponent, `none` beyond `exponentMax`. -/
def exponentValue? (digits : List Nat) : Option Nat :=
  let n := digits.foldl (fun n d => n * 10 + d) 0
  if n ≤ exponentMax then some n else none

/-- The double for collected digits `n`, scaled by `e` and by the written exponent. -/
def real? (x : Numeral) (n : Nat) (e : Int) : Option Number := do
  let magnitude ←
    match x.exponent with
    | none => scale n e
    | some (minus, digits) =>
      match exponentValue? digits with
      | some k => scale n (if minus then e - k else e + k)
      | none => if minus || n == 0 then some Magnitude.zero else none
  some (.real ⟨x.negative, magnitude⟩)

/-- What a numeral means; `none` when it lies beyond the greatest double. -/
def value? (x : Numeral) : Option Number :=
  match collect 0 x.whole with
  | (n, []) =>
    if x.fraction.isEmpty then
      if x.exponent.isSome then x.real? n 0
      else if !x.negative then some (.int n)
      else if 0 < n ∧ n ≤ 9223372036854775808 then some (.int (-(n : Int)))
      else x.real? n 0
    else
      let (m, rest) := collect n x.fraction
      x.real? m (-((x.fraction.length - rest.length : Nat) : Int))
  | (n, left) =>
    -- Digits left over before the point count towards the exponent instead.
    let (m, rest) := collect n x.fraction
    x.real? m ((left.length : Int) - ((x.fraction.length - rest.length : Nat) : Int))

end Numeral

namespace Number

/-- The decimal digits of a natural number. -/
def digits (n : Nat) : List Char := Nat.toDigits 10 n

/-- The text of a decimal: positional with at least one place after the point while the
exponent of the leading digit is between -5 and 15, and scientific beyond that. -/
def renderDecimal (x : Magnitude.Decimal) : List Char :=
  let ds := digits x.digits
  let leading : Int := x.exponent + (ds.length : Int) - 1
  if -5 ≤ leading ∧ leading ≤ 15 then
    if 0 ≤ x.exponent then ds ++ List.replicate x.exponent.toNat '0' ++ ['.', '0']
    else if 0 ≤ leading then
      ds.take (leading.toNat + 1) ++ '.' :: ds.drop (leading.toNat + 1)
    else '0' :: '.' :: List.replicate ((-leading).toNat - 1) '0' ++ ds
  else
    let mantissa := match ds with
      | [] => ['0']
      | [d] => [d]
      | d :: rest => d :: '.' :: rest
    mantissa ++ 'e' :: (if leading < 0 then '-' else '+') :: digits leading.natAbs

/-- The text of an integer. -/
def renderInt (i : Int) : List Char :=
  if i < 0 then '-' :: digits i.natAbs else digits i.natAbs

/-- The digits of a decimal without trailing zeros. -/
def strip : Nat → Magnitude.Decimal → Magnitude.Decimal
  | 0, x => x
  | fuel + 1, x =>
    if x.digits ≠ 0 ∧ x.digits % 10 = 0 then strip fuel ⟨x.digits / 10, x.exponent + 1⟩ else x

/-- The text of a number. -/
def render : Number → List Char
  | .int i => renderInt i
  | .real x =>
    let text := renderDecimal (strip 20 x.magnitude.shortest)
    if x.negative then '-' :: text else text

end Number

end ReplayProxy.Json
