import ReplayProxy.Text.Base64

/-!
# Base64 reads back

`Base64.decode?_encode`: what is written as base64 is read back as the bytes it was. Every
letter stands for one value below sixty-four (`value?_letter`), so a group of letters has
the number of the bytes it was made of, and the bytes are the places of that number.

Both directions carry what is done so far; `encodeOnto_eq` and the reversed group in
`decodeOnto_group` turn that into plain concatenation.
-/

namespace ReplayProxy.Base64

theorem value?_letter_all : ∀ n < 64, value? (letter n) = some n ∧ letter n ≠ '=' := by decide

theorem value?_letter {n : Nat} (h : n < 64) : value? (letter n) = some n :=
  (value?_letter_all n h).1

theorem letter_ne_pad {n : Nat} (h : n < 64) : letter n ≠ '=' := (value?_letter_all n h).2

/-- The byte at a place of a number that has it there. -/
theorem byteAt_eq {n scale : Nat} {b : UInt8} (h : n / scale % 256 = b.toNat) :
    byteAt n scale = b := by
  rw [byteAt, h, UInt8.ofNat_toNat]

/-- Letters that were written already stay in front. -/
theorem encodeOnto_eq (done : List Char) :
    ∀ b : Bytes, encodeOnto done b = done.reverse ++ encodeOnto [] b
  | a :: b :: c :: rest => by
    rw [encodeOnto, encodeOnto, encodeOnto_eq _ rest, encodeOnto_eq ((group a b c).reverse ++ [])]
    simp
  | [a, b] => rfl
  | [a] => rfl
  | [] => by simp [encodeOnto]

/-! ### Groups

The values of the letters are variables here: which places of which number they are is
arithmetic, done afterwards. -/

/-- A number of four sextets is the sum of its sextets. -/
theorem four_sextets (n : Nat) :
    n / 262144 * 262144 + n / 4096 % 64 * 4096 + n / 64 % 64 * 64 + n % 64 = n := by
  omega

/-- A number of three sextets is the sum of its sextets. -/
theorem three_sextets (n : Nat) : n / 4096 * 4096 + n / 64 % 64 * 64 + n % 64 = n := by
  omega

theorem decodeGroup_letters {x y z w : Nat} (hx : x < 64) (hy : y < 64) (hz : z < 64)
    (hw : w < 64) :
    decodeGroup (letter x) (letter y) (letter z) (letter w) =
      some [byteAt (x * 262144 + y * 4096 + z * 64 + w) 65536,
        byteAt (x * 262144 + y * 4096 + z * 64 + w) 256,
        byteAt (x * 262144 + y * 4096 + z * 64 + w) 1] := by
  simp [decodeGroup, value?_letter hx, value?_letter hy, value?_letter hz, value?_letter hw,
    letter_ne_pad hz, letter_ne_pad hw]

theorem decodeGroup_pad {x y z : Nat} (hx : x < 64) (hy : y < 64) (hz : z < 64)
    (hzero : z % 4 = 0) :
    decodeGroup (letter x) (letter y) (letter z) '=' =
      some [byteAt (x * 4096 + y * 64 + z) 1024, byteAt (x * 4096 + y * 64 + z) 4] := by
  simp [decodeGroup, value?_letter hx, value?_letter hy, value?_letter hz, letter_ne_pad hz, hzero]

theorem decodeGroup_pad_pad {x y : Nat} (hx : x < 64) (hy : y < 64) (hzero : y % 16 = 0) :
    decodeGroup (letter x) (letter y) '=' '=' = some [byteAt (x * 64 + y) 16] := by
  simp [decodeGroup, value?_letter hx, value?_letter hy, hzero]

/-- A full group is read as the three bytes it was written for. -/
theorem decodeGroup_three {a b c : UInt8} {n : Nat}
    (hn : a.toNat * 65536 + b.toNat * 256 + c.toNat = n) :
    decodeGroup (letter (n / 262144)) (letter (n / 4096 % 64)) (letter (n / 64 % 64))
      (letter (n % 64)) = some [a, b, c] := by
  have ha := a.toNat_lt
  have hb := b.toNat_lt
  have hc := c.toNat_lt
  -- each sextet is below sixty-four, and the bytes are places of their sum
  rw [decodeGroup_letters (by omega) (by omega) (by omega) (by omega), four_sextets,
    byteAt_eq (b := a) (by omega), byteAt_eq (b := b) (by omega), byteAt_eq (b := c) (by omega)]

/-- A padded group is read as the two bytes it was written for. -/
theorem decodeGroup_two {a b : UInt8} {n : Nat} (hn : a.toNat * 1024 + b.toNat * 4 = n) :
    decodeGroup (letter (n / 4096)) (letter (n / 64 % 64)) (letter (n % 64)) '=' =
      some [a, b] := by
  have ha := a.toNat_lt
  have hb := b.toNat_lt
  rw [decodeGroup_pad (by omega) (by omega) (by omega) (by omega), three_sextets,
    byteAt_eq (b := a) (by omega), byteAt_eq (b := b) (by omega)]

/-- A group padded twice is read as the byte it was written for. -/
theorem decodeGroup_one {a : UInt8} {n : Nat} (hn : a.toNat * 16 = n) :
    decodeGroup (letter (n / 64)) (letter (n % 64)) '=' '=' = some [a] := by
  have ha := a.toNat_lt
  have hsum : n / 64 * 64 + n % 64 = n := by omega
  rw [decodeGroup_pad_pad (by omega) (by omega) (by omega), hsum,
    byteAt_eq (b := a) (by omega)]

/-! ### Whole texts -/

/-- A full group is read off the front. -/
theorem decodeOnto_group (done : Bytes) (a b c : UInt8) (rest : List Char) :
    decodeOnto done (group a b c ++ rest) = decodeOnto (c :: b :: a :: done) rest := by
  simp only [group, List.cons_append, List.nil_append, decodeOnto]
  rw [decodeGroup_three rfl]
  simp

/-- What is encoded is decoded behind what is done already. -/
theorem decodeOnto_encodeOnto (done : Bytes) :
    ∀ b : Bytes, decodeOnto done (encodeOnto [] b) = some (done.reverse ++ b)
  | a :: b :: c :: rest => by
    rw [encodeOnto, encodeOnto_eq, List.append_nil, List.reverse_reverse, decodeOnto_group,
      decodeOnto_encodeOnto _ rest]
    simp
  -- the last group is padded once for two bytes and twice for one
  | [a, b] => by
    simp only [encodeOnto, List.reverse_nil, List.nil_append, decodeOnto]
    rw [decodeGroup_two rfl]
    simp
  | [a] => by
    simp only [encodeOnto, List.reverse_nil, List.nil_append, decodeOnto]
    rw [decodeGroup_one rfl]
    simp
  | [] => by simp [encodeOnto, decodeOnto]

/-- **Base64 reads back.** -/
theorem decode?_encode (b : Bytes) : decode? (encode b) = some b := by
  simp [decode?, encode, decodeOnto_encodeOnto]

end ReplayProxy.Base64
