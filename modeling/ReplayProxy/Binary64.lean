/-!
# Finite double-precision numbers

Numbers of JSON that are not integers of sixty-four bits are read as finite IEEE 754
doubles. A magnitude is `significand · 2 ^ exponent` with a significand below `2 ^ 53`;
it is *normal* when the significand is at least `2 ^ 52`, and otherwise has the least
exponent `-1074`. All arithmetic is exact on natural numbers with one rounding at the end
(to nearest, a tie to the even significand), so nothing depends on a machine's floats.

The shortest decimal of a magnitude is the one of fewest digits that rounds back to it,
and of those the nearest.
-/

namespace ReplayProxy

/-- A non-negative finite double. -/
structure Magnitude where
  /-- The integer that the power of two scales. -/
  significand : Nat
  /-- The exponent of two, at least `-1074`. -/
  exponent : Int
  deriving Repr, DecidableEq

namespace Magnitude

/-- The magnitude zero. -/
def zero : Magnitude := ⟨0, -1074⟩

/-- Whether the magnitude is zero. -/
def isZero (x : Magnitude) : Bool := x.significand == 0

/-- The least significand of a normal magnitude, `2 ^ 52`. -/
def hiddenBit : Nat := 4503599627370496

/-- The quotient rounded to nearest, a tie to the even neighbour. -/
def divRound (num den : Nat) : Nat :=
  let q := num / den
  let r := num % den
  if 2 * r < den then q
  else if 2 * r > den then q + 1
  else if q % 2 = 0 then q else q + 1

/-- Numerator and denominator of `num / den / 2 ^ e`. -/
def unscale (num den : Nat) (e : Int) : Nat × Nat :=
  if e < 0 then (num * Nat.pow 2 (-e).toNat, den) else (num, den * Nat.pow 2 e.toNat)

/-- The exponent at which `num / den` has a whole part of at most fifty-three bits, and of
exactly that many when the least exponent allows it. -/
def exponentFor (num den : Nat) : Int :=
  let e : Int := max (-1074) ((Nat.log2 num : Int) - (Nat.log2 den : Int) - 53)
  let (n, d) := unscale num den e
  if n / d < hiddenBit * 2 then e else e + 1

/-- The double nearest to `num / den`; `none` when it lies beyond the greatest one. -/
def ofRatio (num den : Nat) : Option Magnitude :=
  if num = 0 then some zero
  else
    let e := exponentFor num den
    let (n, d) := unscale num den e
    let m := divRound n d
    let (m, e) := if m = hiddenBit * 2 then (hiddenBit, e + 1) else (m, e)
    if e > 971 then none else some ⟨m, e⟩

/-- The product of two magnitudes. -/
def mul (x y : Magnitude) : Option Magnitude :=
  let e := x.exponent + y.exponent
  let m := x.significand * y.significand
  if e < 0 then ofRatio m (Nat.pow 2 (-e).toNat) else ofRatio (m * Nat.pow 2 e.toNat) 1

/-- The quotient of two magnitudes, the second not zero. -/
def div (x y : Magnitude) : Option Magnitude :=
  let e := x.exponent - y.exponent
  if e < 0 then ofRatio x.significand (y.significand * Nat.pow 2 (-e).toNat)
  else ofRatio (x.significand * Nat.pow 2 e.toNat) y.significand

/-- The double nearest to a power of ten. -/
def powerOfTen (k : Nat) : Option Magnitude := ofRatio (Nat.pow 10 k) 1

/-- Decimal digits and the exponent of ten that scales them. -/
structure Decimal where
  digits : Nat
  exponent : Int
  deriving Repr, DecidableEq

/-- The reals that round to a magnitude, as numerators over the denominator
`2 ^ scale` (after `unscale`): the lower end, the magnitude and the upper end. Next to a
power of two the lower neighbour is nearer. -/
def interval (x : Magnitude) : Nat × Nat × Nat :=
  let low := if x.significand = hiddenBit ∧ x.exponent > -1074 then 1 else 2
  (4 * x.significand - low, 4 * x.significand, 4 * x.significand + 2)

/-- The decimal on the grid of multiples of `10 ^ k` that rounds back to `x`, if one
does: of the two neighbours of `x` on the grid the nearer one, a tie going to the even. -/
def onGrid? (x : Magnitude) (k : Int) : Option Nat :=
  let (low, mid, high) := interval x
  let e := x.exponent - 2
  -- All three ends over one denominator, in units of the grid.
  let up := (if e < 0 then 1 else Nat.pow 2 e.toNat) * (if k < 0 then Nat.pow 10 (-k).toNat else 1)
  let den := (if e < 0 then Nat.pow 2 (-e).toNat else 1) * (if k < 0 then 1 else Nat.pow 10 k.toNat)
  let even := x.significand % 2 = 0
  let inside (d : Nat) : Bool :=
    if even then low * up ≤ d * den ∧ d * den ≤ high * up
    else low * up < d * den ∧ d * den < high * up
  let below := mid * up / den
  let nearest := divRound (mid * up) den
  if inside nearest then some nearest
  else if inside below then some below
  else if inside (below + 1) then some (below + 1)
  else none

/-- Looks for the coarsest grid with a decimal that rounds back, from `10 ^ k` downwards. -/
def search (x : Magnitude) : Nat → Int → Decimal
  | 0, k => ⟨(onGrid? x k).getD 0, k⟩
  | fuel + 1, k =>
    match onGrid? x k with
    | some d => if d = 0 then search x fuel (k - 1) else ⟨d, k⟩
    | none => search x fuel (k - 1)

/-- The number of decimal digits. -/
def digitCount (n : Nat) : Nat := (Nat.toDigits 10 n).length

/-- The exponent of ten of the leading digit, or one more. -/
def leading (x : Magnitude) : Int :=
  let (n, d) := unscale x.significand 1 (-x.exponent)
  if n ≥ d then (digitCount (n / d) : Int)
  else -((digitCount (d / n) : Int) - 1) + 1

/-- The fewest digits that round back to the magnitude. -/
def shortest (x : Magnitude) : Decimal :=
  if x.isZero then ⟨0, 0⟩ else search x 20 (x.leading)

end Magnitude

/-- A finite double: a sign and a magnitude. Negative zero is a value of its own. -/
structure Binary64 where
  negative : Bool
  magnitude : Magnitude
  deriving Repr, DecidableEq

end ReplayProxy
