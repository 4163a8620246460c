import ReplayProxy.Text.Ascii

/-!
# Letters of ASCII by their numbers

`Char.toUpper` and `Char.toLower` move the letters of ASCII by 32 and leave all else alone.
Said of the characters' numbers (`toNat_toUpper`, `toNat_toLower`), every law of the two is
arithmetic.
-/

namespace ReplayProxy.Ascii

theorem toNat_toUpper (c : Char) :
    c.toUpper.toNat = if 97 ≤ c.toNat ∧ c.toNat ≤ 122 then c.toNat - 32 else c.toNat := by
  delta Char.toUpper
  simp only [UInt32.le_iff_toNat_le]
  change _ = if 97 ≤ c.val.toNat ∧ c.val.toNat ≤ 122 then c.val.toNat - 32 else c.val.toNat
  split
  · next h =>
    have hc : 97 ≤ c.val.toNat ∧ c.val.toNat ≤ 122 := h
    rw [if_pos hc]
    -- taking 32 away is adding its complement, which wraps around
    change (c.val + _).toNat = _
    rw [UInt32.toNat_add]
    change (c.val.toNat + 4294967264) % 4294967296 = _
    omega
  · next h =>
    have hc : ¬(97 ≤ c.val.toNat ∧ c.val.toNat ≤ 122) := h
    rw [if_neg hc]
    rfl

theorem toNat_toLower (c : Char) :
    c.toLower.toNat = if 65 ≤ c.toNat ∧ c.toNat ≤ 90 then c.toNat + 32 else c.toNat := by
  -- the core definition adds 32 to the machine word, which does not overflow
  delta Char.toLower
  simp only [ge_iff_le, UInt32.le_iff_toNat_le]
  change _ = if 65 ≤ c.val.toNat ∧ c.val.toNat ≤ 90 then c.val.toNat + 32 else c.val.toNat
  split
  · next h =>
    have hc : 65 ≤ c.val.toNat ∧ c.val.toNat ≤ 90 := h
    rw [if_pos hc]
    change (c.val + _).toNat = _
    rw [UInt32.toNat_add]
    change (c.val.toNat + 32) % 4294967296 = _
    omega
  · next h =>
    have hc : ¬(65 ≤ c.val.toNat ∧ c.val.toNat ≤ 90) := h
    rw [if_neg hc]
    rfl

@[simp] theorem toUpper_toUpper (c : Char) : c.toUpper.toUpper = c.toUpper := by
  rw [← Char.toNat_inj, toNat_toUpper, toNat_toUpper]
  split
  · -- a letter that was moved is no small letter any more
    rw [if_neg (by omega)]
  · rfl

@[simp] theorem toLower_toLower (c : Char) : c.toLower.toLower = c.toLower := by
  rw [← Char.toNat_inj, toNat_toLower, toNat_toLower]
  split
  · rw [if_neg (by omega)]
  · rfl

@[simp] theorem lower_lower (s : String) : lower (lower s) = lower s := by
  simp [← String.toList_inj, Function.comp_def]

/-- The comparison in terms of characters, which can be computed. -/
theorem sameLetters_eq (s t : String) :
    sameLetters s t = decide (s.toList.map Char.toLower = t.toList.map Char.toLower) := by
  rw [Bool.eq_iff_iff, sameLetters_iff, decide_eq_true_iff, ← String.toList_inj, toList_lower,
    toList_lower]

@[simp] theorem toUpper_toLower (c : Char) : c.toLower.toUpper = c.toUpper := by
  rw [← Char.toNat_inj, toNat_toUpper, toNat_toUpper, toNat_toLower]
  by_cases hlarge : 65 ≤ c.toNat ∧ c.toNat ≤ 90
  · -- the letter becomes small and large again
    rw [if_pos hlarge, if_pos (by omega), if_neg (by omega)]
    omega
  · rw [if_neg hlarge]

@[simp] theorem toLower_toUpper (c : Char) : c.toUpper.toLower = c.toLower := by
  rw [← Char.toNat_inj, toNat_toLower, toNat_toLower, toNat_toUpper]
  by_cases hsmall : 97 ≤ c.toNat ∧ c.toNat ≤ 122
  · rw [if_pos hsmall, if_pos (by omega), if_neg (by omega)]
    omega
  · rw [if_neg hsmall]

@[simp] theorem toUpper_eq_hyphen_iff {c : Char} : c.toUpper = '-' ↔ c = '-' := by
  have hyphen : '-'.toNat = 45 := rfl
  rw [← Char.toNat_inj, ← Char.toNat_inj, toNat_toUpper, hyphen]
  split <;> omega

/-- What is no letter has one spelling. -/
theorem toLower_eq_iff {c k : Char} (hk : k.isAlpha = false) : c.toLower = k ↔ c = k := by
  have hletter : ¬((65 ≤ k.toNat ∧ k.toNat ≤ 90) ∨ (97 ≤ k.toNat ∧ k.toNat ≤ 122)) := by
    rw [← Bool.not_eq_true] at hk
    refine mt (fun h => ?_) hk
    delta Char.isAlpha Char.isUpper Char.isLower
    simpa [UInt32.le_iff_toNat_le] using h
  rw [← Char.toNat_inj, ← Char.toNat_inj, toNat_toLower]
  split <;> omega

@[simp] theorem toLower_eq_hyphen_iff {c : Char} : c.toLower = '-' ↔ c = '-' :=
  toLower_eq_iff (by decide)

@[simp] theorem toLower_eq_underscore_iff {c : Char} : c.toLower = '_' ↔ c = '_' :=
  toLower_eq_iff (by decide)

/-! ### Letters and digits -/

/-- Whether something holds of all characters of a text is decided one by one. -/
theorem forall_mem_of_all {p : Char → Prop} [DecidablePred p] {cs : List Char}
    (h : (cs.all fun c => p c) = true) : ∀ c ∈ cs, p c := by
  simpa using h

theorem isDigit_iff {c : Char} : isDigit c = true ↔ 48 ≤ c.toNat ∧ c.toNat ≤ 57 := by
  rw [isDigit, Bool.and_eq_true, decide_eq_true_eq, decide_eq_true_eq]
  rfl

theorem isAlphanumeric_iff {c : Char} :
    isAlphanumeric c = true ↔
      (65 ≤ c.toNat ∧ c.toNat ≤ 90) ∨ (97 ≤ c.toNat ∧ c.toNat ≤ 122) ∨
        (48 ≤ c.toNat ∧ c.toNat ≤ 57) := by
  delta isAlphanumeric isDigit Char.isAlpha Char.isUpper Char.isLower
  simp [UInt32.le_iff_toNat_le, Char.le_def, or_assoc]

@[simp] theorem isAlphanumeric_toLower (c : Char) :
    isAlphanumeric c.toLower = isAlphanumeric c := by
  rw [Bool.eq_iff_iff, isAlphanumeric_iff, isAlphanumeric_iff, toNat_toLower]
  split <;> omega

end ReplayProxy.Ascii
