import ReplayProxy.Http.Uri
import ReplayProxy.Proofs.Text.Letters

/-!
# Parts of an authority

An authority is read from its marks: the at sign behind the user information, the brackets
around an address, and the colon before the port. None of them is a letter, so another spelling
of an authority has the same parts, spelled in the same way: `Http.Uri.hostOf_lower` and
`Http.Uri.portOf?_lower`.

`Http.Uri.toList_hostOf` and `Http.Uri.portOf?_eq` say how host and port are read, with the marks
as conditions.
-/

namespace ReplayProxy.Http.Uri

/-- What is taken up to a mark that is no letter is so in every spelling. -/
theorem takeWhile_map_toLower {k : Char} (hk : k.isAlpha = false) (cs : List Char) :
    (cs.map Char.toLower).takeWhile (· != k) = (cs.takeWhile (· != k)).map Char.toLower := by
  rw [List.takeWhile_map]
  have hsame : ((· != k) ∘ Char.toLower) = (· != k) := funext fun c => by
    rw [Function.comp_apply, Bool.eq_iff_iff, bne_iff_ne, bne_iff_ne, Ne, Ne,
      Ascii.toLower_eq_iff hk]
  rw [hsame]

/-- The part of an authority behind its user information. -/
def placeOf (authority : String) : List Char :=
  (authority.toList.reverse.takeWhile (· != '@')).reverse

theorem toList_hostOf (authority : String) :
    (hostOf authority).toList =
      if (placeOf authority).head? = some '[' then (placeOf authority).takeWhile (· != ']') ++ [']']
      else (placeOf authority).takeWhile (· != ':') := by
  unfold hostOf placeOf
  rw [String.toList_ofList]
  split
  · next hplace => rw [hplace, if_pos List.head?_cons]
  · next hplace =>
    -- no bracket begins the place, or the first case would apply
    rw [if_neg fun h => ?_]
    obtain ⟨rest, hrest⟩ := List.head?_eq_some_iff.1 h
    exact hplace rest hrest

/-- A host holds nothing that its authority does not hold, but for a bracket. -/
theorem mem_hostOf {authority : String} {c : Char} (hc : c ∈ (hostOf authority).toList) :
    c ∈ authority.toList ∨ c = ']' := by
  have hplace : ∀ c ∈ placeOf authority, c ∈ authority.toList := fun c hc =>
    List.mem_reverse.1 ((List.takeWhile_sublist _).subset (List.mem_reverse.1 hc))
  rw [toList_hostOf] at hc
  split at hc
  · rw [List.mem_append, List.mem_singleton] at hc
    exact hc.imp_left fun hc => hplace c ((List.takeWhile_sublist _).subset hc)
  · exact .inl (hplace c ((List.takeWhile_sublist _).subset hc))

/-- The mark with which a text begins is the same in every spelling, if it is no letter. -/
theorem head?_map_toLower {k : Char} (hk : k.isAlpha = false) (cs : List Char) :
    (cs.map Char.toLower).head? = some k ↔ cs.head? = some k := by
  cases cs with
  | nil => rfl
  | cons c cs =>
    rw [List.map_cons, List.head?_cons, List.head?_cons, Option.some_inj, Option.some_inj,
      Ascii.toLower_eq_iff hk]

theorem placeOf_lower (authority : String) :
    placeOf (Ascii.lower authority) = (placeOf authority).map Char.toLower := by
  rw [placeOf, placeOf, Ascii.toList_lower, ← List.map_reverse, takeWhile_map_toLower (by decide),
    ← List.map_reverse]

theorem hostOf_lower (authority : String) :
    hostOf (Ascii.lower authority) = Ascii.lower (hostOf authority) := by
  have hhead := head?_map_toLower (k := '[') (by decide) (placeOf authority)
  rw [← String.toList_inj, Ascii.toList_lower, toList_hostOf, toList_hostOf, placeOf_lower]
  -- the marks around a host are no letters, so they stand where they stood
  by_cases hbracket : (placeOf authority).head? = some '['
  · rw [if_pos (hhead.2 hbracket), if_pos hbracket, takeWhile_map_toLower (by decide),
      List.map_append]
    rfl
  · rw [if_neg (mt hhead.1 hbracket), if_neg hbracket, takeWhile_map_toLower (by decide)]

/-- Only digits write a number, and they have one spelling. -/
theorem decimal?_map_toLower (cs : List Char) :
    Ascii.decimal? (cs.map Char.toLower) = Ascii.decimal? cs := by
  have hlower : ∀ c : Char, Ascii.isDigit c.toLower = Ascii.isDigit c := fun c => by
    rw [Bool.eq_iff_iff, Ascii.isDigit_iff, Ascii.isDigit_iff, Ascii.toNat_toLower]
    split <;> omega
  have hall : (cs.map Char.toLower).all Ascii.isDigit = cs.all Ascii.isDigit := by
    rw [List.all_map]
    exact congrArg cs.all (funext hlower)
  unfold Ascii.decimal?
  rw [hall, List.isEmpty_map]
  split
  · rfl
  · next hdigits =>
    -- digits are no letters, so they stay as they are
    have hsame : cs.map Char.toLower = cs := by
      refine (List.map_congr_left fun c hc => ?_).trans (List.map_id cs)
      simp only [Bool.or_eq_true, Bool.not_eq_true', not_or, Bool.not_eq_false] at hdigits
      have hnumber := Ascii.isDigit_iff.1 (List.all_eq_true.1 hdigits.2 c hc)
      rw [id_eq, ← Char.toNat_inj, Ascii.toNat_toLower, if_neg (by omega)]
    rw [hsame]

theorem portOf?_eq (authority : String) :
    portOf? authority =
      if authority.toList.contains ':' = false then none
      else
        let digits := (authority.toList.reverse.takeWhile (· != ':')).reverse
        (Ascii.decimal? (if digits.head? = some '+' then digits.tail else digits)).bind fun n =>
          if n ≤ 65535 then some (UInt16.ofNat n) else none := by
  simp only [portOf?, List.contains_reverse, Bool.not_eq_true']
  generalize (authority.toList.reverse.takeWhile (· != ':')).reverse = digits
  split
  · rfl
  · cases digits with
    | nil => rfl
    | cons c cs =>
      -- only a plus sign in front is dropped
      by_cases hc : c = '+'
      · subst hc
        simp only [List.head?_cons, if_true, List.tail_cons]
        cases Ascii.decimal? cs <;> rfl
      · simp only [List.head?_cons, Option.some_inj, List.cons.injEq, hc, false_and, if_false,
          imp_self, implies_true]
        cases Ascii.decimal? (c :: cs) <;> rfl

theorem portOf?_lower (authority : String) :
    portOf? (Ascii.lower authority) = portOf? authority := by
  -- a colon has one spelling
  have hcolon : (authority.toList.map Char.toLower).contains ':' =
      authority.toList.contains ':' := by
    rw [Bool.eq_iff_iff, List.contains_iff_mem, List.contains_iff_mem, List.mem_map]
    constructor
    · rintro ⟨c, hc, heq⟩
      rwa [(Ascii.toLower_eq_iff (by decide)).1 heq] at hc
    · exact fun h => ⟨':', h, rfl⟩
  have hdigits := takeWhile_map_toLower (k := ':') (by decide) authority.toList.reverse
  rw [portOf?_eq, portOf?_eq, Ascii.toList_lower, hcolon]
  simp only [← List.map_reverse, hdigits, head?_map_toLower (k := '+') (by decide)]
  rw [← List.map_tail, ← apply_ite (List.map Char.toLower), decimal?_map_toLower]

end ReplayProxy.Http.Uri
