import Mathlib.Tactic.SplitIfs
import ReplayProxy.Proofs.Text.Encoding

/-!
# The order of texts

Texts are compared character by character, and what is stored or hashed is ordered by bytes. The
two orders are one: UTF-8 writes a greater character with greater bytes
(`Bytes.encodeChar_append_lt`), so texts are ordered as their bytes are
(`Bytes.ofText_lt_ofText_iff`).

Sorted texts are a normal form of their multiset (`Text.sort_eq_sort_iff`).
-/

namespace ReplayProxy

namespace Bytes

/-- The bytes of a greater character are greater, whatever follows. -/
theorem encodeChar_append_lt {c d : Char} (h : c < d) (s t : Bytes) :
    String.utf8EncodeChar c ++ s < String.utf8EncodeChar d ++ t := by
  have hlt : c.val.toNat < d.val.toNat := h
  have hrange : d.val.toNat < 0x110000 := by
    rcases d.valid with hlow | ⟨-, hhigh⟩
    · exact Nat.lt_trans hlow (by decide)
    · exact hhigh
  unfold String.utf8EncodeChar
  simp only
  generalize c.val.toNat = v, d.val.toNat = w at *
  -- a longer form has a greater lead byte, and forms of one length are compared byte by byte
  split_ifs <;>
    simp only [List.cons_append, List.nil_append, List.cons_lt_cons_iff, UInt8.lt_iff_toNat_lt,
      ← UInt8.toNat_inj, UInt8.toNat_ofNat']
  all_goals try omega
  -- what is left is the longest form, whose first bytes that differ have to be found
  have hle := Nat.le_of_lt hlt
  rcases Nat.lt_or_eq_of_le (Nat.div_le_div_right (c := 262144) hle) with hfirst | hfirst
  · omega
  rcases Nat.lt_or_eq_of_le (Nat.div_le_div_right (c := 4096) hle) with hsecond | hsecond
  · omega
  rcases Nat.lt_or_eq_of_le (Nat.div_le_div_right (c := 64) hle) with hthird | hthird <;> omega

theorem ofChars_lt_ofChars {cs ds : List Char} (h : cs < ds) : ofChars cs < ofChars ds := by
  induction cs generalizing ds with
  | nil =>
    cases ds with
    | nil => exact absurd h (List.lt_irrefl _)
    | cons d ds =>
      obtain ⟨b, bs, hbytes⟩ := List.exists_cons_of_ne_nil (String.utf8EncodeChar_ne_nil (c := d))
      rw [ofChars_nil, ofChars_cons, hbytes]
      exact List.nil_lt_cons _ _
  | cons c cs ih =>
    cases ds with
    | nil => exact absurd h (List.not_lt_nil _)
    | cons d ds =>
      -- the first characters decide unless they are equal
      rcases List.cons_lt_cons_iff.1 h with hlt | ⟨rfl, hlt⟩
      · exact encodeChar_append_lt hlt _ _
      · exact List.append_left_lt (ih hlt)

/-- **Texts are ordered as their bytes are.** -/
theorem ofText_lt_ofText_iff {s t : String} : ofText s < ofText t ↔ s < t := by
  have hmono : ∀ {s t : String}, s < t → ofText s < ofText t := by
    intro s t h
    rw [ofText_eq_ofChars, ofText_eq_ofChars]
    exact ofChars_lt_ofChars (String.lt_iff.1 h)
  refine ⟨fun h => ?_, hmono⟩
  rcases Std.lt_trichotomy s t with hlt | rfl | hgt
  · exact hlt
  · exact absurd h (List.lt_irrefl _)
  · exact absurd h (List.lt_asymm (hmono hgt))

end Bytes

namespace Text

theorem pairwise_sort (ss : List String) :
    (ss.mergeSort fun s t => decide (s ≤ t)).Pairwise (· ≤ ·) := by
  have htrans : ∀ a b c : String, decide (a ≤ b) = true → decide (b ≤ c) = true →
      decide (a ≤ c) = true := fun a b c hab hbc =>
    decide_eq_true (String.le_trans (of_decide_eq_true hab) (of_decide_eq_true hbc))
  have htotal : ∀ a b : String, (decide (a ≤ b) || decide (b ≤ a)) = true := fun a b => by
    rw [Bool.or_eq_true, decide_eq_true_eq, decide_eq_true_eq]
    exact String.le_total a b
  exact (List.pairwise_mergeSort htrans htotal ss).imp of_decide_eq_true

/-- **Sorting is a normal form**: texts become the same list if and only if they are the same
texts, each as often. -/
theorem sort_eq_sort_iff {ss ts : List String} :
    ss.mergeSort (fun s t => decide (s ≤ t)) = ts.mergeSort (fun s t => decide (s ≤ t)) ↔
      ss.Perm ts := by
  constructor
  · intro h
    have hss := List.mergeSort_perm ss fun s t => decide (s ≤ t)
    rw [h] at hss
    exact hss.symm.trans (List.mergeSort_perm ts _)
  · intro h
    have hss := List.mergeSort_perm ss fun s t => decide (s ≤ t)
    have hts := List.mergeSort_perm ts fun s t => decide (s ≤ t)
    refine ((hss.trans h).trans hts.symm).eq_of_pairwise ?_ (pairwise_sort ss) (pairwise_sort ts)
    exact fun a b _ _ hab hba => String.le_antisymm hab hba

end Text

end ReplayProxy
