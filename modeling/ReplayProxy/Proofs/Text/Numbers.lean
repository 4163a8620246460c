import Mathlib.Algebra.Group.Nat.Defs
import Mathlib.Tactic.Ring
import ReplayProxy.Text.Bytes

/-!
# Numbers as bytes

A number is written in a fixed count of bytes, of which it leaves its high ones away if they
do not fit, and it is read from any bytes. Reading after writing gives the remainder
(`Bytes.toNat_bigEndian_mod`), so a number that fits is read back.
-/

namespace ReplayProxy.Bytes

theorem toNat_append (a b : Bytes) : toNat (a ++ b) = toNat a * 256 ^ b.length + toNat b := by
  -- what was read so far moves up by one place for every byte that follows
  have hfold : ∀ (b : Bytes) (n : Nat),
      b.foldl (fun n x => n * 256 + x.toNat) n = n * 256 ^ b.length + toNat b := by
    intro b
    induction b with
    | nil => simp [toNat]
    | cons x b ih =>
      intro n
      have hx : toNat (x :: b) = x.toNat * 256 ^ b.length + toNat b := by
        rw [toNat, List.foldl_cons, ih]
        simp
      rw [List.foldl_cons, ih, hx, List.length_cons]
      ring
  rw [toNat, List.foldl_append, hfold b]
  rfl

theorem toNat_cons (x : UInt8) (b : Bytes) :
    toNat (x :: b) = x.toNat * 256 ^ b.length + toNat b := by
  have h := toNat_append [x] b
  simpa [toNat] using h

/-- What is read from the low bytes of a number is a remainder. -/
theorem toNat_bigEndian_mod (width n : Nat) : toNat (bigEndian width n) = n % 256 ^ width := by
  induction width generalizing n with
  | zero => simp [bigEndian, toNat, Nat.mod_one]
  | succ width ih =>
    -- the last byte is the remainder, and the bytes before it are those of the quotient
    have hbyte : toNat [UInt8.ofNat n] = n % 256 := by simp [toNat]
    rw [bigEndian, toNat_append, ih, hbyte, List.length_singleton, Nat.pow_one,
      Nat.pow_succ', Nat.mod_mul]
    ring

/-- The low bytes of a number are those of its remainder. -/
theorem bigEndian_mod (width n : Nat) :
    bigEndian width (n % 256 ^ width) = bigEndian width n := by
  induction width generalizing n with
  | zero => rfl
  | succ width ih =>
    have hhigh : n % 256 ^ (width + 1) / 256 = n / 256 % 256 ^ width := by
      rw [Nat.pow_succ', Nat.mod_mul_right_div_self]
    have hlow : UInt8.ofNat (n % 256 ^ (width + 1)) = UInt8.ofNat n := by
      apply UInt8.toNat_inj.1
      rw [UInt8.toNat_ofNat', UInt8.toNat_ofNat', Nat.pow_succ']
      exact Nat.mod_mul_right_mod n 256 _
    rw [bigEndian, bigEndian, hhigh, ih, hlow]

/-- A number that fits is read back from its bytes. -/
theorem toNat_bigEndian {width n : Nat} (h : n < 256 ^ width) : toNat (bigEndian width n) = n := by
  rw [toNat_bigEndian_mod, Nat.mod_eq_of_lt h]

theorem bigEndian_injective {width m n : Nat} (hm : m < 256 ^ width) (hn : n < 256 ^ width)
    (h : bigEndian width m = bigEndian width n) : m = n := by
  rw [← toNat_bigEndian hm, h, toNat_bigEndian hn]

end ReplayProxy.Bytes
