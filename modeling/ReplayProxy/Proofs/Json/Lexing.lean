import ReplayProxy.Json.Value
import ReplayProxy.Proofs.Text.Encoding

/-!
# Written tokens are read back

What the writer of JSON puts down for a string or an integer is taken off the front of a
text as one token, whatever text follows:

* `Token.lex_quote` — a quoted string is read as the string. Each character is written as
  itself, by one letter after a backslash, or by four hexadecimal digits; `pieces_escape`
  says for all three that the reader collects pieces that spell the character's bytes.
* `Token.lex_int` — the digits of an integer are read as its numeral, provided that what
  follows does not go on with the number (`Stops`), and `Numeral.value?_ofInt` gives the
  numeral its value back.
-/

namespace ReplayProxy.Json

open Bytes (ofChars)

/-! ### Strings -/

/-- Pieces that join to given bytes, wherever they stand in a string. -/
def Piece.Spell (ps : List Piece) (b : Bytes) : Prop :=
  ∀ (done : Bytes) (rest : List Piece),
    Piece.join done (ps ++ rest) = Piece.join (b.reverse ++ done) rest

namespace Piece

theorem Spell.append {ps qs : List Piece} {a b : Bytes} (hp : Spell ps a) (hq : Spell qs b) :
    Spell (ps ++ qs) (a ++ b) := by
  intro done rest
  rw [List.append_assoc, hp, hq, List.reverse_append, List.append_assoc]

/-- Bytes spell themselves. -/
theorem spell_bytes (b : Bytes) : Spell (b.map .byte) b := by
  induction b with
  | nil => exact fun done rest => rfl
  | cons x b ih =>
    intro done rest
    rw [List.map_cons, List.cons_append, join, ih, List.reverse_cons, List.append_assoc]
    rfl

/-- A unit below the surrogates spells the character that it numbers. -/
theorem spell_unit {c : Char} (h : c.toNat < 0xD800) :
    Spell [.unit c.toNat] (String.utf8EncodeChar c) := by
  intro done rest
  -- it is neither half of a pair, so nothing that follows can join it
  have hlow : isLow c.toNat = false := by simp [isLow]; omega
  have hhigh : isHigh c.toNat = false := by simp [isHigh]; omega
  rw [List.singleton_append, join.eq_def]
  simp [hlow, hhigh, encode, Char.ofNat_toNat]

end Piece

namespace Token

theorem hexValue?_digit : ∀ n < 16,
    hexValue? (UInt8.ofNat (Nat.digitChar n).toNat) = some n ∧ (Nat.digitChar n).toNat < 0x80 := by
  decide

/-- A byte that stands for itself in a string is collected as it is. -/
theorem pieces_byte {b : UInt8} (done : List Piece) (s : Bytes) (hquote : b ≠ 0x22)
    (hslash : b ≠ 0x5C) (hcontrol : ¬b < 0x20) :
    pieces done (b :: s) = pieces (.byte b :: done) s := by
  rw [pieces, if_neg (not_or.2 ⟨hcontrol, hslash⟩)]
  · exact hquote
  · exact fun _ _ _ _ _ h => absurd h hslash
  · exact fun _ _ h => absurd h hslash

theorem pieces_bytes (s : Bytes) :
    ∀ (b : Bytes) (done : List Piece), (∀ x ∈ b, x ≠ 0x22 ∧ x ≠ 0x5C ∧ ¬x < 0x20) →
      pieces done (b ++ s) = pieces ((b.map .byte).reverse ++ done) s
  | [], _, _ => rfl
  | x :: b, done, h => by
    obtain ⟨hquote, hslash, hcontrol⟩ := h x (by simp)
    rw [List.cons_append, pieces_byte done _ hquote hslash hcontrol,
      pieces_bytes s b _ fun y hy => h y (by simp [hy])]
    simp

/-- The bytes of a character that needs no escape stand for themselves. -/
theorem plain_of_mem_encodeChar {c : Char} (hquote : c ≠ '"') (hslash : c ≠ '\\')
    (hcontrol : ¬c.toNat < 0x20) {b : UInt8} (hb : b ∈ String.utf8EncodeChar c) :
    b ≠ 0x22 ∧ b ≠ 0x5C ∧ ¬b < 0x20 := by
  have key : b.toNat ≠ 0x22 ∧ b.toNat ≠ 0x5C ∧ ¬b.toNat < 0x20 := by
    -- one byte with the character's number, or several bytes that all have the high bit
    by_cases hascii : c.toNat < 0x80
    · rw [Bytes.encodeChar_of_ascii hascii, List.mem_singleton] at hb
      have hq : c.toNat ≠ 0x22 := fun h => hquote (Char.toNat_inj.1 h)
      have hs : c.toNat ≠ 0x5C := fun h => hslash (Char.toNat_inj.1 h)
      have : b.toNat = c.toNat := by rw [hb, UInt8.toNat_ofNat']; omega
      omega
    · have := Bytes.le_of_mem_encodeChar (by omega) hb
      omega
  refine ⟨fun h => key.1 (by rw [h]; rfl), fun h => key.2.1 (by rw [h]; rfl), fun h => key.2.2 ?_⟩
  exact UInt8.lt_iff_toNat_lt.1 h

/-- A letter after a backslash is collected as the byte it stands for. -/
theorem pieces_letter {e b : UInt8} (done : List Piece) (s : Bytes) (he : escape? e = some b)
    (hu : e ≠ 0x75) : pieces done (0x5C :: e :: s) = pieces (.byte b :: done) s := by
  rw [pieces, he]
  exact fun _ _ _ _ _ h => absurd h hu

/-- However a character is escaped, the reader collects pieces that spell it. -/
theorem pieces_escape (c : Char) (done : List Piece) (s : Bytes) :
    ∃ ps, pieces done (ofChars (Value.escapeChar c) ++ s) = pieces (ps.reverse ++ done) s ∧
      Piece.Spell ps (String.utf8EncodeChar c) := by
  have letter : ∀ {e b : UInt8}, escape? e = some b → e ≠ 0x75 →
      ∃ ps, pieces done ([0x5C, e] ++ s) = pieces (ps.reverse ++ done) s ∧ Piece.Spell ps [b] :=
    fun he hu => ⟨[.byte _], pieces_letter done s he hu, Piece.spell_bytes [_]⟩
  unfold Value.escapeChar
  -- the escapes by one letter come first, then the one by digits, then the plain characters
  split
  · next h => subst h; exact letter (e := 0x22) rfl (by decide)
  split
  · next h => subst h; exact letter (e := 0x5C) rfl (by decide)
  split
  · next h => subst h; exact letter (e := 0x62) rfl (by decide)
  split
  · next h => subst h; exact letter (e := 0x66) rfl (by decide)
  split
  · next h => subst h; exact letter (e := 0x6E) rfl (by decide)
  split
  · next h => subst h; exact letter (e := 0x72) rfl (by decide)
  split
  · next h => subst h; exact letter (e := 0x74) rfl (by decide)
  split
  · -- a control character: its two digits are read back to its number
    next hc =>
    obtain ⟨hx, hxa⟩ := hexValue?_digit (c.toNat / 16) (by omega)
    obtain ⟨hy, hya⟩ := hexValue?_digit (c.toNat % 16) (by omega)
    refine ⟨[.unit c.toNat], ?_, Piece.spell_unit (by omega)⟩
    have hunit : hexUnit? 0x30 0x30 (UInt8.ofNat (Nat.digitChar (c.toNat / 16)).toNat)
        (UInt8.ofNat (Nat.digitChar (c.toNat % 16)).toNat) = some c.toNat := by
      have h0 : hexValue? 0x30 = some 0 := rfl
      simp [hexUnit?, h0, hx, hy]
      omega
    have hbytes : ofChars ['\\', 'u', '0', '0', Nat.digitChar (c.toNat / 16),
        Nat.digitChar (c.toNat % 16)] =
          [0x5C, 0x75, 0x30, 0x30, UInt8.ofNat (Nat.digitChar (c.toNat / 16)).toNat,
            UInt8.ofNat (Nat.digitChar (c.toNat % 16)).toNat] := by
      simp only [Bytes.ofChars_cons, Bytes.encodeChar_of_ascii hxa, Bytes.encodeChar_of_ascii hya]
      rfl
    rw [hbytes]
    simp [pieces, hunit]
  · next hquote hslash _ _ _ _ _ hcontrol =>
    refine ⟨(String.utf8EncodeChar c).map .byte, ?_, Piece.spell_bytes _⟩
    rw [Bytes.ofChars_cons, Bytes.ofChars_nil, List.append_nil]
    exact pieces_bytes s _ done fun b hb => plain_of_mem_encodeChar hquote hslash hcontrol hb

/-- The inside of a quoted string, up to and with the closing quote. -/
theorem pieces_escapes (s : Bytes) :
    ∀ (cs : List Char) (done : List Piece),
      ∃ ps, pieces done (ofChars (cs.flatMap Value.escapeChar) ++ 0x22 :: s) =
          some (done.reverse ++ ps, s) ∧ Piece.Spell ps (ofChars cs)
  | [], done => ⟨[], by simp [pieces], Piece.spell_bytes []⟩
  | c :: cs, done => by
    obtain ⟨ps, hps, hspell⟩ :=
      pieces_escape c done (ofChars (cs.flatMap Value.escapeChar) ++ 0x22 :: s)
    obtain ⟨qs, hqs, hspell'⟩ := pieces_escapes s cs (ps.reverse ++ done)
    refine ⟨ps ++ qs, ?_, ?_⟩
    · rw [List.flatMap_cons, Bytes.ofChars_append, List.append_assoc, hps, hqs]
      simp
    · exact hspell.append hspell'

/-- A quoted string is read as the string. -/
theorem lex_quote (text : String) (s : Bytes) :
    lex (ofChars (Value.quote text) ++ s) = (.string (some text), s) := by
  -- between the quotes stand the escapes of the characters, and their pieces join to the text
  obtain ⟨ps, hps, hspell⟩ := pieces_escapes s text.toList []
  have hjoin : Piece.join [] ps = some (ofChars text.toList) := by
    have := hspell [] []
    simpa [Piece.join] using this
  have hbytes : ofChars (Value.quote text) ++ s =
      0x22 :: (ofChars (text.toList.flatMap Value.escapeChar) ++ 0x22 :: s) := by
    rw [Value.quote, Bytes.ofChars_cons, Bytes.ofChars_append, List.append_assoc, List.append_assoc]
    rfl
  rw [hbytes]
  simp [lex, hps, textOf, hjoin, Bytes.text?_ofChars]

end Token

/-! ### Integers -/

namespace Numeral

/-- The digits of a natural number, the most significant first. -/
def decimals (n : Nat) : List Nat := (Nat.toDigits 10 n).map fun c => c.toNat - 0x30

/-- The numeral that writes an integer. -/
def ofInt (i : Int) : Numeral := ⟨decide (i < 0), decimals i.natAbs, [], none⟩

/-- No number but zero begins with the digit zero. -/
theorem exists_decimals_eq_cons {n : Nat} (h : 0 < n) :
    ∃ d ds, decimals n = d :: ds ∧ d ≠ 0 := by
  -- dropping the last digit leaves the first one, down to a number of one digit
  induction n using Nat.strongRecOn with
  | ind n ih =>
    by_cases hn : n < 10
    · refine ⟨n, [], ?_, by omega⟩
      rw [decimals, Nat.toDigits_of_lt_base hn, List.map_singleton,
        Nat.toNat_digitChar_sub_48_of_lt_ten hn]
    · obtain ⟨d, ds, heq, hd⟩ := ih (n / 10) (by omega) (by omega)
      refine ⟨d, ds ++ [n % 10], ?_, hd⟩
      rw [decimals, Nat.toDigits_of_base_le (by decide) (by omega), List.map_append, ← decimals,
        heq, List.map_singleton, Nat.toNat_digitChar_sub_48_of_lt_ten (by omega)]
      rfl

theorem decimals_zero : decimals 0 = [0] := rfl

/-- The value of digits after a number `m`. -/
def foldDigits (m : Nat) (ds : List Nat) : Nat := ds.foldl (fun n d => n * 10 + d) m

theorem le_foldDigits (ds : List Nat) (m : Nat) : m ≤ foldDigits m ds := by
  induction ds generalizing m with
  | nil => exact Nat.le_refl m
  | cons d ds ih =>
    have hrest := ih (m * 10 + d)
    simp only [foldDigits, List.foldl_cons] at hrest ⊢
    omega

/-- Digits that fit into sixty-four bits are all collected. -/
theorem collect_eq (ds : List Nat) (m : Nat) (h : foldDigits m ds ≤ wordMax) :
    collect m ds = (foldDigits m ds, []) := by
  induction ds generalizing m with
  | nil => rfl
  | cons d ds ih =>
    -- the value only grows, so no digit on the way overflows if the whole does not
    have hd : m * 10 + d ≤ wordMax := Nat.le_trans (le_foldDigits ds _) h
    rw [collect, if_pos hd, ih _ h]
    rfl

theorem foldDigits_decimals (n : Nat) : foldDigits 0 (decimals n) = n := by
  have h := @Nat.ofDigitChars_ten_toDigits n
  rw [Nat.ofDigitChars] at h
  rw [foldDigits, decimals, List.foldl_map]
  simpa [Nat.mul_comm] using h

/-- The numeral of an integer of at most sixty-four bits has it as its value. -/
theorem value?_ofInt {i : Int} (hlow : -9223372036854775808 ≤ i) (hhigh : i ≤ wordMax) :
    (ofInt i).value? = some (.int i) := by
  -- the digits are those of the absolute value; the sign is put in front afterwards
  have hmax : i.natAbs ≤ wordMax := by unfold wordMax at *; omega
  have hcollect : collect 0 (decimals i.natAbs) = (i.natAbs, []) := by
    rw [collect_eq _ _ (by rw [foldDigits_decimals]; exact hmax), foldDigits_decimals]
  by_cases hneg : i < 0
  · have habs : 0 < i.natAbs ∧ i.natAbs ≤ 9223372036854775808 := by omega
    have hval : -(i.natAbs : Int) = i := by omega
    simp only [ofInt, value?, hcollect, hneg, habs, hval]
    simp
  · have hval : (i.natAbs : Int) = i := by omega
    simp only [ofInt, value?, hcollect, hneg, hval]
    simp

end Numeral

/-- What follows a number and does not go on with it. -/
def Stops (s : Bytes) : Prop :=
  ∀ b ∈ s.head?, isDigitByte b = false ∧ b ≠ 0x2E ∧ b ≠ 0x65 ∧ b ≠ 0x45

theorem stops_nil : Stops [] := by simp [Stops]

theorem stops_cons {b : UInt8} {s : Bytes}
    (h : isDigitByte b = false ∧ b ≠ 0x2E ∧ b ≠ 0x65 ∧ b ≠ 0x45) : Stops (b :: s) := by
  intro x hx
  rw [List.head?_cons, Option.mem_some] at hx
  exact hx ▸ h

namespace Token

/-- A digit is one byte, which is a digit with the same value. -/
theorem isDigitByte_of_isDigit {c : Char} (h : c.isDigit) :
    c.toNat < 0x80 ∧ isDigitByte (UInt8.ofNat c.toNat) = true ∧
      (UInt8.ofNat c.toNat).toNat = c.toNat := by
  have hc : 48 ≤ c.toNat ∧ c.toNat ≤ 57 := Char.isDigit_iff_toNat.1 h
  have hb : (UInt8.ofNat c.toNat).toNat = c.toNat := by rw [UInt8.toNat_ofNat']; omega
  refine ⟨by omega, ?_, hb⟩
  simp only [isDigitByte, Bool.and_eq_true, decide_eq_true_eq, UInt8.le_iff_toNat_le, hb]
  exact hc

/-- Digits are read up to where they stop. -/
theorem digits_ofChars {s : Bytes} (hs : Stops s) :
    ∀ {cs : List Char}, (∀ c ∈ cs, c.isDigit) →
      digits (ofChars cs ++ s) = (cs.map fun c => c.toNat - 0x30, s)
  | [], _ => by
    cases s with
    | nil => rfl
    | cons b s =>
      have hb := (hs b rfl).1
      simp [digits, hb]
  -- a digit is one byte, so the bytes go on as the characters do
  | c :: cs, h => by
    obtain ⟨hascii, hdigit, hval⟩ := isDigitByte_of_isDigit (h c (by simp))
    have ih := digits_ofChars hs fun d hd => h d (List.mem_cons_of_mem c hd)
    rw [digits, Prod.mk.injEq] at ih
    rw [Bytes.ofChars_cons, Bytes.encodeChar_of_ascii hascii, List.append_assoc,
      List.singleton_append, digits, List.takeWhile_cons_of_pos hdigit,
      List.dropWhile_cons_of_pos hdigit, List.map_cons, ih.1, ih.2, hval]
    rfl

theorem fraction?_of_stops {s : Bytes} (hs : Stops s) : fraction? s = some ([], s) := by
  cases s with
  | nil => rfl
  | cons b s =>
    have hb := (hs b rfl).2.1
    rw [fraction?]
    exact fun r h => hb (List.cons.inj h).1

theorem exponent?_of_stops {s : Bytes} (hs : Stops s) : exponent? s = some (none, s) := by
  cases s with
  | nil => rfl
  | cons b s =>
    have hb := (hs b rfl).2.2
    rw [exponent?, if_neg (not_or.2 hb)]

/-- The digits of a natural number are read as its numeral. -/
theorem numeral?_decimals (negative : Bool) (n : Nat) {s : Bytes} (hs : Stops s) :
    numeral? negative (ofChars (Nat.toDigits 10 n) ++ s) =
      some (⟨negative, Numeral.decimals n, [], none⟩, s) := by
  have hdigits : digits (ofChars (Nat.toDigits 10 n) ++ s) = (Numeral.decimals n, s) :=
    digits_ofChars hs fun c hc => Nat.isDigit_of_mem_toDigits (by decide) (by decide) hc
  rw [numeral?, hdigits]
  -- a leading zero stands alone, so the digits are accepted as they are
  by_cases hn : n = 0
  · subst hn
    simp [Numeral.decimals_zero, fraction?_of_stops hs, exponent?_of_stops hs]
  · obtain ⟨d, ds, heq, hd⟩ := Numeral.exists_decimals_eq_cons (Nat.pos_of_ne_zero hn)
    simp [heq, hd, fraction?_of_stops hs, exponent?_of_stops hs]

/-- The text of a natural number begins with a digit. -/
theorem exists_ofChars_toDigits (n : Nat) :
    ∃ b r, ofChars (Nat.toDigits 10 n) = b :: r ∧ 0x30 ≤ b.toNat ∧ b.toNat ≤ 0x39 := by
  cases hcs : Nat.toDigits 10 n with
  | nil => exact absurd hcs Nat.toDigits_ne_nil
  | cons c cs =>
    have hc : c.isDigit :=
      Nat.isDigit_of_mem_toDigits (b := 10) (n := n) (by decide) (by decide) (by simp [hcs])
    obtain ⟨hascii, -, hval⟩ := isDigitByte_of_isDigit hc
    refine ⟨UInt8.ofNat c.toNat, ofChars cs, ?_, ?_⟩
    · rw [Bytes.ofChars_cons, Bytes.encodeChar_of_ascii hascii]
      rfl
    · rw [hval]
      exact Char.isDigit_iff_toNat.1 hc

/-- A text that begins with a digit is read as a number. -/
theorem lex_digit {b : UInt8} {r : Bytes} (hlow : 0x30 ≤ b.toNat) (hhigh : b.toNat ≤ 0x39)
    {n : Numeral} {s : Bytes} (h : numeral? false (b :: r) = some (n, s)) :
    lex (b :: r) = (.number n, s) := by
  have hb : ∀ x : UInt8, x.toNat < 0x30 ∨ 0x39 < x.toNat → b ≠ x := by
    rintro x hx rfl
    omega
  rw [lex, h]
  -- none of the other tokens begins with a digit
  all_goals exact fun _ heq => hb _ (by decide) (List.cons.inj heq).1

/-- The text of an integer is read as its numeral. -/
theorem lex_int (i : Int) {s : Bytes} (hs : Stops s) :
    lex (ofChars (Number.renderInt i) ++ s) = (.number (.ofInt i), s) := by
  unfold Number.renderInt Number.digits
  -- a minus sign is a token's first byte of its own; without one the first digit is
  split
  · next hneg =>
    have hread := numeral?_decimals true i.natAbs hs
    have hbytes : ofChars ('-' :: Nat.toDigits 10 i.natAbs) ++ s =
        0x2D :: (ofChars (Nat.toDigits 10 i.natAbs) ++ s) := rfl
    rw [hbytes, lex, hread]
    simp [Numeral.ofInt, hneg]
  · next hneg =>
    have hread := numeral?_decimals false i.natAbs hs
    obtain ⟨b, r, hbytes, hlow, hhigh⟩ := exists_ofChars_toDigits i.natAbs
    rw [hbytes, List.cons_append] at hread ⊢
    rw [lex_digit hlow hhigh hread]
    simp [Numeral.ofInt, hneg]

end Token

end ReplayProxy.Json
