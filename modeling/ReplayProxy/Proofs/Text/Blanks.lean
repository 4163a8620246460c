import Mathlib.Data.List.DropRight
import ReplayProxy.Text.Blank

/-!
# Trimming

Trimming takes the blanks off the two ends of a text. A text is what is left of it between blanks
(`Blank.exists_trimList`), other blanks at the ends leave the same (`Blank.trimList_append`), and
what is left has no blank at either end (`Blank.solid_trimList`). Between two characters that are no
blanks nothing is touched (`Blank.trimList_solid`).
-/

namespace ReplayProxy

/-- What is dropped off the front is dropped before a part that stays. -/
theorem Text.dropWhile_append_of_eq {p : Char → Bool} {cs : List Char} (h : cs.dropWhile p = cs)
    (before : List Char) : (before ++ cs).dropWhile p = before.dropWhile p ++ cs := by
  rw [List.dropWhile_append]
  split
  · next hempty => rw [h, List.isEmpty_iff.1 hempty, List.nil_append]
  · rfl

namespace Blank

/-- Nothing but blanks. -/
def Only (cs : List Char) : Prop := ∀ c ∈ cs, isBlank c = true

instance : DecidablePred Only := List.decidableBAll fun c => isBlank c = true

theorem only_nil : Only [] := fun _ h => absurd h List.not_mem_nil

theorem dropWhile_append_solid (before : List Char) {c : Char} (hc : isBlank c = false)
    (rest : List Char) :
    (before ++ c :: rest).dropWhile isBlank = before.dropWhile isBlank ++ c :: rest :=
  Text.dropWhile_append_of_eq (List.dropWhile_cons_of_neg (by simp [hc])) before

theorem rdropWhile_append_solid (before : List Char) {c : Char} (hc : isBlank c = false)
    (rest : List Char) :
    (before ++ c :: rest).rdropWhile isBlank = before ++ c :: rest.rdropWhile isBlank := by
  -- seen from behind, the rest is what is dropped from
  have hreverse := dropWhile_append_solid rest.reverse hc before.reverse
  rw [List.rdropWhile, List.reverse_append, List.reverse_cons, List.append_assoc,
    List.singleton_append, hreverse, List.rdropWhile]
  simp

/-- Only what is before and after two characters that are no blanks is trimmed. -/
theorem trimList_solid {c d : Char} (hc : isBlank c = false) (hd : isBlank d = false)
    (before middle after : List Char) :
    trimList (before ++ c :: (middle ++ d :: after)) =
      before.dropWhile isBlank ++ c :: (middle ++ d :: after.rdropWhile isBlank) := by
  have hback := rdropWhile_append_solid (before.dropWhile isBlank ++ c :: middle) hd after
  rw [List.append_assoc, List.append_assoc, List.cons_append, List.cons_append] at hback
  rw [trimList, dropWhile_append_solid before hc]
  exact hback

/-- A text is what is left of it between blanks. -/
theorem exists_trimList (cs : List Char) :
    ∃ bs es, Only bs ∧ Only es ∧ cs = bs ++ (trimList cs ++ es) := by
  -- blanks are taken off the front first, and off the back of what is left
  refine ⟨cs.takeWhile isBlank, (cs.dropWhile isBlank).rtakeWhile isBlank,
    fun c hc => List.mem_takeWhile_imp hc, fun c hc => List.mem_rtakeWhile_imp hc, ?_⟩
  have hback : trimList cs ++ (cs.dropWhile isBlank).rtakeWhile isBlank =
      cs.dropWhile isBlank := List.rdropWhile_append_rtakeWhile
  rw [hback, List.takeWhile_append_dropWhile]

/-- Blanks around a text make no difference. -/
theorem trimList_append {bs es : List Char} (hbs : Only bs) (hes : Only es) (cs : List Char) :
    trimList (bs ++ (cs ++ es)) = trimList cs := by
  have hback : ∀ ds : List Char, (ds ++ es).rdropWhile isBlank = ds.rdropWhile isBlank := by
    intro ds
    rw [List.rdropWhile, List.reverse_append,
      List.dropWhile_append_of_pos fun c hc => hes c (List.mem_reverse.1 hc), List.rdropWhile]
  show ((bs ++ (cs ++ es)).dropWhile isBlank).rdropWhile isBlank =
    (cs.dropWhile isBlank).rdropWhile isBlank
  rw [List.dropWhile_append_of_pos hbs, List.dropWhile_append]
  split
  · -- a text of blanks alone is gone before its end is looked at
    next hnil =>
    rw [List.isEmpty_iff.1 hnil, List.dropWhile_eq_nil_iff.2 hes]
  · exact hback _

/-- What is trimmed begins with no blank and ends with none. -/
theorem solid_trimList (cs : List Char) :
    (∀ c ∈ (trimList cs).head?, isBlank c = false) ∧
      ∀ c ∈ (trimList cs).getLast?, isBlank c = false := by
  constructor
  · intro c hc
    -- the first character is the one that stopped the dropping
    obtain ⟨es, hes⟩ : trimList cs <+: cs.dropWhile isBlank := List.rdropWhile_prefix _ _
    have hhead := List.head?_dropWhile_not isBlank cs
    have hfirst : (cs.dropWhile isBlank).head? = some c := by
      rw [← hes, List.head?_append, Option.mem_def.1 hc]
      rfl
    rw [hfirst] at hhead
    exact hhead
  · intro c hc
    have hne : trimList cs ≠ [] := by
      rintro hnil
      rw [hnil] at hc
      cases hc
    have hlast : ¬isBlank ((trimList cs).getLast hne) = true := List.rdropWhile_last_not _ _ hne
    rw [List.getLast?_eq_some_getLast hne, Option.mem_some_iff] at hc
    rw [← hc]
    exact Bool.eq_false_iff.2 hlast

/-- Where there is no blank at either end, there is nothing to trim. -/
theorem trimList_eq_self {cs : List Char} (hfront : ∀ c ∈ cs.head?, isBlank c = false)
    (hback : ∀ c ∈ cs.getLast?, isBlank c = false) : trimList cs = cs := by
  have hdrop : cs.dropWhile isBlank = cs := by
    cases cs with
    | nil => rfl
    | cons c cs => exact List.dropWhile_cons_of_neg (by simp [hfront c rfl])
  show (cs.dropWhile isBlank).rdropWhile isBlank = cs
  rw [hdrop, List.rdropWhile_eq_self_iff]
  intro hne
  simp [hback _ (List.getLast_mem_getLast? hne)]

theorem trim_eq_self_iff {s : String} :
    trim s = s ↔ (∀ c ∈ s.toList.head?, isBlank c = false) ∧
      ∀ c ∈ s.toList.getLast?, isBlank c = false := by
  constructor
  · intro h
    have hlist : trimList s.toList = s.toList := by
      rw [← String.toList_ofList (l := trimList s.toList)]
      exact congrArg String.toList h
    rw [← hlist]
    exact solid_trimList s.toList
  · rintro ⟨hfront, hback⟩
    rw [trim, trimList_eq_self hfront hback, String.ofList_toList]

end Blank

end ReplayProxy
