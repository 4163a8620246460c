import ReplayProxy.Text.Bytes

/-!
# Texts as bytes, character by character

`Bytes.ofText` is defined through the representation of strings. What reads a text byte by
byte needs it as the characters' bytes one after the other: `Bytes.ofChars`, with
`Bytes.ofText_ofList` and `Bytes.ofText_eq_ofChars` to pass from one to the other.

Two facts on single characters decide every case split over bytes: a character of ASCII is
one byte, its own number (`encodeChar_of_ascii`), and all bytes of any other character lie
above ASCII (`le_of_mem_encodeChar`). So a byte of ASCII found in a text is a character of
its own.
-/

namespace ReplayProxy.Bytes

/-- The bytes of characters, one character after the other. -/
def ofChars (cs : List Char) : Bytes := cs.flatMap String.utf8EncodeChar

@[simp] theorem ofChars_nil : ofChars [] = [] := rfl

theorem ofChars_cons (c : Char) (cs : List Char) :
    ofChars (c :: cs) = String.utf8EncodeChar c ++ ofChars cs := rfl

@[simp] theorem ofChars_append (cs ds : List Char) :
    ofChars (cs ++ ds) = ofChars cs ++ ofChars ds := by
  simp [ofChars]

theorem ofText_ofList (cs : List Char) : ofText (String.ofList cs) = ofChars cs := by
  simp [ofText, ofChars, List.utf8Encode]

theorem ofText_eq_ofChars (s : String) : ofText s = ofChars s.toList := by
  rw [← ofText_ofList, String.ofList_toList]

/-- The bytes of characters are text, and the text is theirs. -/
theorem text?_ofChars (cs : List Char) : (ofChars cs).text? = some (String.ofList cs) := by
  rw [← ofText_ofList, text?_ofText]

/-- A character of ASCII is one byte. -/
theorem encodeChar_of_ascii {c : Char} (h : c.toNat < 0x80) :
    String.utf8EncodeChar c = [UInt8.ofNat c.toNat] := by
  have hv : c.val.toNat ≤ 0x7f := Nat.le_of_lt_succ h
  unfold String.utf8EncodeChar
  simp only [hv, if_true]
  rfl

/-- The bytes of a character outside ASCII lie outside ASCII. -/
theorem le_of_mem_encodeChar {c : Char} (h : 0x80 ≤ c.toNat) {b : UInt8}
    (hb : b ∈ String.utf8EncodeChar c) : 0x80 ≤ b.toNat := by
  have hv : ¬c.val.toNat ≤ 0x7f := Nat.not_le.2 h
  unfold String.utf8EncodeChar at hb
  simp only [hv, if_false] at hb
  -- a lead byte is at least `0xC0`, a further byte at least `0x80`
  split at hb
  · simp only [List.mem_cons, List.not_mem_nil, or_false] at hb
    rcases hb with rfl | rfl <;> simp [UInt8.toNat_ofNat'] <;> omega
  · split at hb <;> simp only [List.mem_cons, List.not_mem_nil, or_false] at hb
    · rcases hb with rfl | rfl | rfl <;> simp [UInt8.toNat_ofNat'] <;> omega
    · rcases hb with rfl | rfl | rfl | rfl <;> simp [UInt8.toNat_ofNat'] <;> omega

/-- The bytes of a text of ASCII lie in ASCII. -/
theorem lt_of_mem_ofText {s : String} (h : ∀ c ∈ s.toList, c.toNat < 0x80) {b : UInt8}
    (hb : b ∈ ofText s) : b.toNat < 0x80 := by
  rw [ofText_eq_ofChars] at hb
  obtain ⟨c, hc, hb⟩ := List.mem_flatMap.1 hb
  rw [encodeChar_of_ascii (h c hc), List.mem_singleton] at hb
  have hlt := h c hc
  rw [hb, UInt8.toNat_ofNat']
  omega

theorem ofText_of_ascii {s : String} (h : ∀ c ∈ s.toList, c.toNat < 0x80) :
    ofText s = s.toList.map fun c => UInt8.ofNat c.toNat := by
  rw [ofText_eq_ofChars, ofChars, List.map_eq_flatMap, List.flatMap_def, List.flatMap_def]
  exact congrArg _ (List.map_congr_left fun c hc => encodeChar_of_ascii (h c hc))

/-! ### Hexadecimal digits -/

theorem toNat_hexDigit_lt : ∀ n < 16, (hexDigit n).toNat < 0x80 := by decide

/-- Hexadecimal digits are of ASCII. -/
theorem toNat_lt_of_mem_hex {b : Bytes} {c : Char} (hc : c ∈ (hex b).toList) :
    c.toNat < 0x80 := by
  rw [hex, String.toList_ofList] at hc
  obtain ⟨x, -, hc⟩ := List.mem_flatMap.1 hc
  have hx := x.toNat_lt
  rcases List.mem_cons.1 hc with rfl | hc
  · exact toNat_hexDigit_lt _ (by omega)
  · rw [List.mem_singleton.1 hc]
    exact toNat_hexDigit_lt _ (Nat.mod_lt _ (by decide))

end ReplayProxy.Bytes
