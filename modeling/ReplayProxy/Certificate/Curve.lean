import ReplayProxy.Certificate.Modular

/-!
# The curve P-256

The curve of NIST over the prime field of 256 bits, `y² = x³ - 3x + b`. Points are held in
Jacobian coordinates: `(x, y, z)` stands for `(x / z², y / z³)`, and for the point at
infinity if `z` is zero.
-/

namespace ReplayProxy.Curve

/-- The prime of the field. -/
def prime : Nat := 0xffffffff00000001000000000000000000000000ffffffffffffffffffffffff

/-- The number of points. -/
def order : Nat := 0xffffffff00000000ffffffffffffffffbce6faada7179e84f3b9cac2fc632551

/-- A point of the plane. -/
structure Point where
  x : Nat
  y : Nat
  deriving DecidableEq, Repr

/-- The point from which all others are reached. -/
def base : Point :=
  ⟨0x6b17d1f2e12c4247f8bce6e563a440f277037d812deb33a0f4a13945d898c296,
   0x4fe342e2fe1a7f9b8ee7eb4a7c0f9e162bce33576b315ececbb6406837bf51f5⟩

/-- A point in Jacobian coordinates. -/
structure Jacobian where
  x : Nat
  y : Nat
  z : Nat

/-- The point at infinity. -/
def infinity : Jacobian := ⟨1, 1, 0⟩

/-- Differences in the field. -/
def sub (a b : Nat) : Nat := Modular.sub a b prime

/-- Twice a point. -/
def double (a : Jacobian) : Jacobian :=
  if a.z = 0 || a.y = 0 then infinity
  else
    let delta := a.z * a.z % prime
    let gamma := a.y * a.y % prime
    let beta := a.x * gamma % prime
    let alpha := 3 * (sub a.x delta) * (a.x + delta) % prime
    let x := sub (alpha * alpha) (8 * beta)
    let z := sub (sub ((a.y + a.z) * (a.y + a.z)) gamma) delta
    let y := sub (alpha * sub (4 * beta) x) (8 * gamma * gamma)
    ⟨x, y, z⟩

/-- The sum of two points. -/
def add (a b : Jacobian) : Jacobian :=
  if a.z = 0 then b
  else if b.z = 0 then a
  else
    let aa := a.z * a.z % prime
    let bb := b.z * b.z % prime
    let u := a.x * bb % prime
    let s := a.y * bb * b.z % prime
    let h := sub (b.x * aa) u
    let r := sub (b.y * aa * a.z) s
    -- on one vertical line: a point twice, or a point and its opposite
    if h = 0 then if r = 0 then double a else infinity
    else
      let hh := h * h % prime
      let hhh := h * hh % prime
      let v := u * hh % prime
      let x := sub (sub (r * r) hhh) (2 * v)
      ⟨x, sub (r * sub v x) (s * hhh), h * a.z * b.z % prime⟩

/-- A multiple of a point, for factors of up to 256 bits. -/
def multiple (k : Nat) (p : Point) : Jacobian :=
  (Modular.bits 256 k).foldl
    (fun sum bit => if bit then add (double sum) ⟨p.x, p.y, 1⟩ else double sum) infinity

/-- The point of the plane, unless it is at infinity. -/
def Jacobian.point? (a : Jacobian) : Option Point :=
  if a.z = 0 then none
  else
    let i := Modular.inverse a.z prime
    let ii := i * i % prime
    some ⟨a.x * ii % prime, a.y * ii * i % prime⟩

/-- The point that belongs to a secret factor. -/
def pointOf? (secret : Nat) : Option Point :=
  if 0 < secret && secret < order then (multiple secret base).point? else none

end ReplayProxy.Curve
