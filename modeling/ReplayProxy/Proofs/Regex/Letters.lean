import ReplayProxy.Proofs.Text.Letters
import ReplayProxy.Regex.Parser

/-!
# Patterns that ignore the case of letters

A pattern may tell a large letter of ASCII from the small one, and unless it is written
otherwise it does. Whether a pattern *ignores case* is read off its sets of characters
(`Regex.ignoresCase`): each must hold both spellings of a letter or none. Anchors need no
condition, since a letter belongs to a word in both spellings and a line feed has one.

Main statement: `Regex.isMatch_congr`. A pattern that ignores case matches all spellings of a
text or none.
-/

namespace ReplayProxy.Regex

namespace CharSet

/-- The numbers of the two spellings of a letter of ASCII are treated alike. -/
def SameLetters (p : Nat → Bool) : Prop := ∀ i < 26, p (65 + i) = p (97 + i)

instance (p : Nat → Bool) : Decidable (SameLetters p) := Nat.decidableBallLT _ _

/-- What treats the two spellings of each letter alike treats all spellings of a character
alike. -/
theorem SameLetters.toLower {p : Nat → Bool} (h : SameLetters p) (c : Char) :
    p c.toLower.toNat = p c.toNat := by
  rw [Ascii.toNat_toLower]
  -- a large letter is one of the 26, and any other character is its own small one
  split
  · next hlarge =>
    have hletter := h (c.toNat - 65) (by omega)
    rw [show 65 + (c.toNat - 65) = c.toNat by omega,
      show 97 + (c.toNat - 65) = c.toNat + 32 by omega] at hletter
    exact hletter.symm
  · rfl

/-- A letter belongs to words in both spellings. -/
theorem sameLetters_isWord (ascii : Bool) : SameLetters (isWord ascii) := by
  cases ascii <;> decide +kernel

end CharSet

/-- Whether a pattern treats the two spellings of each letter of ASCII alike. -/
def ignoresCase : Regex → Bool
  | empty => true
  | set chars => decide (CharSet.SameLetters chars.contains)
  | anchor _ => true
  | sequence a b | alternative a b => a.ignoresCase && b.ignoresCase
  | repeated a _ _ => a.ignoresCase

/-! ### Two spellings of a text -/

/-- Two texts agree up to the case of the letters of ASCII. -/
def Respelled (text text' : Array Char) : Prop :=
  text.map Char.toLower = text'.map Char.toLower

namespace Respelled

variable {text text' : Array Char}

theorem size (h : Respelled text text') : text.size = text'.size := by
  have hsize := congrArg Array.size h
  rwa [Array.size_map, Array.size_map] at hsize

theorem getElem? (h : Respelled text text') (i : Nat) :
    text[i]?.map Char.toLower = text'[i]?.map Char.toLower := by
  rw [← Array.getElem?_map, ← Array.getElem?_map, h]

theorem before? (h : Respelled text text') (i : Nat) :
    (Regex.before? text i).map Char.toLower = (Regex.before? text' i).map Char.toLower := by
  unfold Regex.before?
  by_cases hi : i = 0
  · rw [if_pos hi, if_pos hi]
  · rw [if_neg hi, if_neg hi]
    exact h.getElem? (i - 1)

end Respelled

/-- A test of one character that treats spellings alike gives the same on both. -/
theorem any_congr {p : Char → Bool} (hp : ∀ c, p c.toLower = p c) {c d : Option Char}
    (h : c.map Char.toLower = d.map Char.toLower) : c.any p = d.any p := by
  have hlower : ∀ o : Option Char, (o.map Char.toLower).any p = o.any p := fun o => by
    cases o with
    | none => rfl
    | some c => exact hp c
  rw [← hlower c, h, hlower d]

theorem inWord_congr (ascii : Bool) {c d : Option Char}
    (h : c.map Char.toLower = d.map Char.toLower) : inWord ascii c = inWord ascii d :=
  any_congr (fun c => (CharSet.sameLetters_isWord ascii).toLower c) h

/-- A line feed has one spelling. -/
theorem eq_lineFeed_congr {c d : Option Char} (h : c.map Char.toLower = d.map Char.toLower) :
    (c == some '\n') = (d == some '\n') := by
  -- no letter becomes a line feed in small letters
  have hfeed : ∀ c : Char, (c.toLower == '\n') = (c == '\n') := fun c => by
    rw [Bool.eq_iff_iff, beq_iff_eq, beq_iff_eq, Ascii.toLower_eq_iff (by decide)]
  have hany : ∀ o : Option Char, (o == some '\n') = o.any (· == '\n') := fun o => by
    cases o <;> rfl
  rw [hany, hany, any_congr hfeed h]

theorem Anchor.holds_congr {text text' : Array Char} (h : Respelled text text') (i : Nat)
    (condition : Anchor) : condition.holds text i = condition.holds text' i := by
  have hword := fun ascii => inWord_congr ascii (h.getElem? i)
  have hwordBefore := fun ascii => inWord_congr ascii (h.before? i)
  -- an anchor looks at the two characters around its place, or at the length of the text
  cases condition with
  | textStart => rfl
  | textEnd => simp only [Anchor.holds, h.size]
  | lineStart => simp only [Anchor.holds, eq_lineFeed_congr (h.before? i)]
  | lineEnd => simp only [Anchor.holds, h.size, eq_lineFeed_congr (h.getElem? i)]
  | wordEdge ascii | notWordEdge ascii | wordStart ascii | wordEnd ascii =>
    simp only [Anchor.holds, hword, hwordBefore]
  | wordStartHalf ascii => simp only [Anchor.holds, hwordBefore]
  | wordEndHalf ascii => simp only [Anchor.holds, hword]

/-- Where the matches of a pattern end that ignores case does not depend on the spelling. -/
theorem ends_congr {text text' : Array Char} (h : Respelled text text') {r : Regex}
    (hr : r.ignoresCase = true) : ends text r = ends text' r := by
  induction r with
  | empty => rfl
  | set chars =>
    have hchars : CharSet.SameLetters chars.contains := of_decide_eq_true hr
    funext starts
    simp only [ends]
    -- at each place a character is in the set in both texts or in none
    refine congrArg (List.filterMap · starts) (funext fun i => ?_)
    have hplace := h.getElem? i
    cases hc : text[i]? with
    | none =>
      rw [hc, Option.map_none, eq_comm, Option.map_eq_none_iff] at hplace
      rw [hplace]
    | some c =>
      rw [hc, Option.map_some, eq_comm, Option.map_eq_some_iff] at hplace
      obtain ⟨d, hd, hlower⟩ := hplace
      have hmember : chars.contains c.toNat = chars.contains d.toNat := by
        rw [← hchars.toLower c, ← hlower, hchars.toLower d]
      rw [hd]
      simp only [hmember]
  | anchor condition =>
    funext starts
    simp only [ends]
    exact List.filter_congr fun i _ => Anchor.holds_congr h i condition
  | sequence a b iha ihb =>
    rw [ignoresCase, Bool.and_eq_true] at hr
    funext starts
    simp only [ends, iha hr.1, ihb hr.2]
  | alternative a b iha ihb =>
    rw [ignoresCase, Bool.and_eq_true] at hr
    funext starts
    simp only [ends, iha hr.1, ihb hr.2]
  | repeated a least most ih =>
    funext starts
    simp only [ends, ih hr, h.size]

/-- **All spellings or none.** A pattern that ignores case matches a text as it matches every
text with the same letters. -/
theorem isMatch_congr {r : Regex} (hr : r.ignoresCase = true) {s t : String}
    (h : Ascii.lower s = Ascii.lower t) : r.isMatch s = r.isMatch t := by
  have hrespelled : Respelled s.toList.toArray t.toList.toArray := by
    rw [Respelled, List.map_toArray, List.map_toArray, ← Ascii.toList_lower, h, Ascii.toList_lower]
  simp only [isMatch, ends_congr hrespelled hr, hrespelled.size]

/-- The pattern with which an engine starts ignores case. -/
example : (parse ".").toOption.map ignoresCase = some true := by decide +kernel

end ReplayProxy.Regex
