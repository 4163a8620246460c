/-!
# Arithmetic modulo a number

Powers and inverses, as keys need them. A power is computed bit by bit: the number of bits
of the exponent bounds the work.
-/

namespace ReplayProxy.Modular

/-- The low `count` bits of a number, the highest first. -/
def bits (count n : Nat) : List Bool := ((List.range count).map n.testBit).reverse

/-- One more bit of an exponent. -/
def powerStep (b m : Nat) (r : Nat) (bit : Bool) : Nat :=
  let s := r * r % m
  if bit then s * b % m else s

/-- `b ^ e` modulo `m`. -/
def power (b e m : Nat) : Nat := (bits (e.log2 + 1) e).foldl (powerStep (b % m) m) (1 % m)

/-- The inverse modulo a prime. -/
def inverse (a p : Nat) : Nat := power a (p - 2) p

/-- The difference modulo `m`. -/
def sub (a b m : Nat) : Nat := (a + (m - b % m)) % m

/-- The steps of Euclid on two numbers with their coefficients, as long as `fuel` lasts. -/
def euclid : Nat → Nat → Nat → Int → Int → Nat × Int
  | 0, a, _, x, _ => (a, x)
  | fuel + 1, a, b, x, y =>
    if b = 0 then (a, x) else euclid fuel b (a % b) y (x - (a / b : Nat) * y)

/-- The inverse modulo any number, if there is one. -/
def inverse? (a m : Nat) : Option Nat :=
  let (g, x) := euclid (2 * (m.log2 + 2)) (a % m) m 1 0
  if g = 1 then some (x % (m : Int)).toNat else none

end ReplayProxy.Modular
