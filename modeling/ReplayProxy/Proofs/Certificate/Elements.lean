import ReplayProxy.Certificate.Der
import ReplayProxy.Proofs.Text.Numbers

/-!
# Elements read back

What the reader of DER makes of what was written. A length is written with as many bytes as
it needs and read with four of them at most; so an element comes back as it was, or, if it
is too long, not at all (`next?_element`). Beyond `2 ^ 128` bytes not even the byte that
counts the bytes of the length would hold their number; no file comes near that, and the
statements of this module leave it out.

From a row of elements that is read, then, every element comes back (`eq_of_elements?`), and
a number comes back from an integer (`natural?_integer`).
-/

namespace ReplayProxy

namespace Der

variable {tag : UInt8} {content rest b : Bytes} {n : Nat}

theorem lt_pow_number (n : Nat) : n < 256 ^ (n.log2 / 8 + 1) := by
  have hpow : (256 : Nat) ^ (n.log2 / 8 + 1) = 2 ^ (8 * (n.log2 / 8 + 1)) := by
    rw [Nat.pow_mul]
  rw [hpow]
  exact Nat.lt_of_lt_of_le Nat.lt_log2_self (Nat.pow_le_pow_right (by omega) (by omega))

@[simp] theorem toNat_number (n : Nat) : Bytes.toNat (number n) = n :=
  Bytes.toNat_bigEndian (lt_pow_number n)

@[simp] theorem length_number (n : Nat) : (number n).length = n.log2 / 8 + 1 :=
  Bytes.length_bigEndian _ _

/-! ### Lengths -/

/-- The bytes of a length: one, or one that counts the others. -/
theorem lengthBytes_cases (hn : n < 2 ^ 128) :
    (n < 128 ∧ lengthBytes n = [UInt8.ofNat n] ∧ (UInt8.ofNat n).toNat = n) ∨
    (128 ≤ n ∧ ∃ k, lengthBytes n = k :: number n ∧ k.toNat = 128 + (number n).length) := by
  unfold lengthBytes
  by_cases hsmall : n < 128
  · refine .inl ⟨hsmall, if_pos hsmall, ?_⟩
    rw [UInt8.toNat_ofNat']
    omega
  · have hlog : n.log2 < 128 := (Nat.log2_lt (by omega)).2 hn
    refine .inr ⟨by omega, _, if_neg hsmall, ?_⟩
    rw [UInt8.toNat_ofNat', length_number]
    omega

/-- A length is read back, unless its number takes more than four bytes. -/
theorem length?_lengthBytes (hn : n < 2 ^ 128) (rest : Bytes) :
    length? (lengthBytes n ++ rest) = if n < 2 ^ 32 then some (n, rest) else none := by
  rcases lengthBytes_cases hn with ⟨hsmall, heq, hbyte⟩ | ⟨hlarge, k, heq, hbyte⟩
  · have hlt : UInt8.ofNat n < 128 := by
      rw [UInt8.lt_iff_toNat_lt, hbyte]
      exact hsmall
    rw [heq, List.singleton_append, length?, if_pos hlt, hbyte, if_pos (by omega)]
  · -- a long length begins with the number of its bytes, of which four are read at most
    have hlt : ¬k < 128 := by
      rw [UInt8.lt_iff_toNat_lt, hbyte]
      exact Nat.not_lt.2 (Nat.le_add_right _ _)
    have hcount : k.toNat - 128 = (number n).length := by omega
    rw [heq, List.cons_append, length?, if_neg hlt]
    simp only [hcount, List.take_left, List.drop_left, toNat_number]
    -- the number has at most four bytes exactly if it is below `2 ^ 32`
    have hfour : n < 2 ^ 32 ↔ (number n).length ≤ 4 := by
      rw [length_number, ← Nat.log2_lt (by omega)]
      omega
    have hsome : (number n).length ≠ 0 := by
      rw [length_number]
      exact Nat.succ_ne_zero _
    by_cases hn32 : n < 2 ^ 32
    · have hfew := hfour.1 hn32
      rw [if_pos hn32, if_neg]
      simp only [List.length_append, Bool.or_eq_true, decide_eq_true_eq]
      omega
    · have hmany := mt hfour.2 hn32
      rw [if_neg hn32, if_pos]
      simp only [List.length_append, Bool.or_eq_true, decide_eq_true_eq]
      omega

/-! ### Elements -/

/-- A tag of one byte. -/
def IsLow (tag : UInt8) : Prop := tag &&& 0x1F ≠ 0x1F

instance (tag : UInt8) : Decidable (IsLow tag) := inferInstanceAs (Decidable (_ ≠ _))

theorem content_le_element (tag : UInt8) (content : Bytes) :
    content.length ≤ (element tag content).length := by
  simp [element]
  omega

/-- The first two bytes of an element tell where its content is. -/
theorem drop_element (tag : UInt8) (hlength : content.length < 2 ^ 128) :
    ∃ n left, element tag content = tag :: n :: left ∧
      (element tag content).drop (if n < 128 then 2 else 2 + (n.toNat - 128)) = content := by
  -- a short length is one byte, and a long one says in one byte how many bytes it has
  rcases lengthBytes_cases hlength with ⟨hsmall, heq, hbyte⟩ | ⟨hlarge, k, heq, hbyte⟩
  · have hlt : UInt8.ofNat content.length < 128 := by
      rw [UInt8.lt_iff_toNat_lt, hbyte]
      exact hsmall
    refine ⟨_, content, by rw [element, heq]; rfl, ?_⟩
    rw [if_pos hlt, element, heq]
    rfl
  · have hlt : ¬k < 128 := by
      rw [UInt8.lt_iff_toNat_lt, hbyte]
      exact Nat.not_lt.2 (Nat.le_add_right _ _)
    refine ⟨k, number content.length ++ content, by rw [element, heq]; rfl, ?_⟩
    have hskip : 2 + (k.toNat - 128) = (tag :: k :: number content.length).length := by
      rw [hbyte, List.length_cons, List.length_cons]
      omega
    rw [if_neg hlt, element, heq, hskip]
    exact List.drop_left

/-- An element is read back, unless it is too long to be read. -/
theorem next?_element (htag : IsLow tag) (hlength : content.length < 2 ^ 128) (rest : Bytes) :
    next? (element tag content ++ rest) =
      if content.length < 2 ^ 32 then some (⟨tag, content⟩, rest) else none := by
  rw [element, List.append_assoc, List.cons_append, next?, if_neg htag,
    length?_lengthBytes hlength]
  by_cases hshort : content.length < 2 ^ 32
  · rw [if_pos hshort, if_pos hshort]
    simp
  · rw [if_neg hshort, if_neg hshort]

theorem eq_of_next? {e : Element} {left : Bytes} (htag : IsLow tag)
    (hlength : content.length < 2 ^ 128)
    (h : next? (element tag content ++ rest) = some (e, left)) :
    e = ⟨tag, content⟩ ∧ left = rest := by
  rw [next?_element htag hlength] at h
  split at h
  · cases h
    exact ⟨rfl, rfl⟩
  · cases h

theorem eq_of_only? {e : Element} (htag : IsLow tag) (hlength : content.length < 2 ^ 128)
    (h : only? (element tag content) = some e) : e = ⟨tag, content⟩ := by
  unfold only? at h
  split at h
  · next heq =>
    cases h
    rw [← List.append_nil (element tag content)] at heq
    exact (eq_of_next? htag hlength heq).1
  · cases h

/-! ### Rows of elements -/

/-- The bytes of a row of elements. -/
def row (es : List Element) : Bytes := (es.map Element.bytes).flatten

@[simp] theorem row_cons (e : Element) (es : List Element) : row (e :: es) = e.bytes ++ row es :=
  rfl

/-- A sequence as an element. -/
def sequenceElement (parts : List Bytes) : Element := ⟨0x30, parts.flatten⟩

theorem content_le_row {e : Element} {es : List Element} (h : e ∈ es) :
    e.content.length ≤ (row es).length := by
  have hsub : e.bytes.Sublist (row es) :=
    List.sublist_flatten_of_mem (List.mem_map_of_mem h)
  exact Nat.le_trans (content_le_element e.tag e.content) hsub.length_le

/-- From a row that is read every element comes back. -/
theorem eq_of_elements? {es es' : List Element} (htags : ∀ e ∈ es, IsLow e.tag)
    (hlength : (row es).length < 2 ^ 128) (h : elements? (row es) = some es') : es' = es := by
  -- how many elements may be read does not matter, as long as they are read
  suffices hmost : ∀ most, elementsUpTo most (row es) = some es' → es' = es from hmost _ h
  clear h
  induction es generalizing es' with
  | nil =>
    intro most h
    cases most <;> cases h <;> rfl
  | cons e es ih =>
    intro most h
    have hcontent : e.content.length < 2 ^ 128 :=
      Nat.lt_of_le_of_lt (content_le_row (List.mem_cons_self ..)) hlength
    have hrest : (row es).length < 2 ^ 128 := by
      refine Nat.lt_of_le_of_lt ?_ hlength
      simp
    cases most with
    | zero => cases h
    | succ most =>
      change (next? (element e.tag e.content ++ row es)).bind _ = _ at h
      obtain ⟨⟨e', left⟩, hnext, h⟩ := Option.bind_eq_some_iff.1 h
      -- the first element is read as it was written, and the induction reads the others
      obtain ⟨rfl, rfl⟩ := eq_of_next? (htags e (List.mem_cons_self ..)) hcontent hnext
      obtain ⟨others, hothers, h⟩ := Option.bind_eq_some_iff.1 h
      cases h
      rw [ih (fun e he => htags e (List.mem_cons_of_mem _ he)) hrest most hothers]

/-- What is inside an element that holds a row. -/
theorem eq_of_inside? {es es' : List Element} {tag' : UInt8} (htags : ∀ e ∈ es, IsLow e.tag)
    (hlength : (row es).length < 2 ^ 128)
    (h : (⟨tag, row es⟩ : Element).inside? tag' = some es') : es' = es := by
  unfold Element.inside? Element.content? at h
  split at h
  · exact eq_of_elements? htags hlength h
  · cases h

/-! ### Integers -/

/-- A natural number is read back. -/
theorem natural?_integer (n : Nat) : (⟨0x02, integerBytes n⟩ : Element).natural? = some n := by
  have hlength : (number n).length ≠ 0 := by simp
  have hnumber := toNat_number n
  unfold integerBytes
  rcases hn : number n with _ | ⟨b, bs⟩
  · simp [hn] at hlength
  · rw [hn] at hnumber
    by_cases hb : b ≥ 0x80
    -- the zero in front keeps the number from being read as negative
    · simp [Element.natural?, Element.content?, hb, Bytes.toNat_cons 0, hnumber]
    · simp [Element.natural?, Element.content?, hb, hnumber]

end Der

end ReplayProxy
