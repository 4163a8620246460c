import Mathlib.Data.List.Induction
import Mathlib.Data.List.TakeWhile
import ReplayProxy.Proofs.Http.Authority
import ReplayProxy.Proofs.Http.Target

/-!
# Authorities with and without a port

An authority has a port if a colon stands behind its user information and its brackets; colons
before that belong to a password or to an address (`Http.Uri.Portless`). To an authority without a
port, and only to such a one, a port can be written (`Http.Uri.authority?_withPort_iff`). It can be
read again, and the host stays as it was (`Http.Uri.portOf?_withPort`, `Http.Uri.hostOf_withPort`).

A host is not all that an authority without a port may hold: user information stands in front of
it, and text may stand around its brackets. `Http.Uri.Bare` describes those that are a host and
nothing else, and `Http.Uri.hostOf_eq_self_iff` says so.

Whether a text is an authority is decided character by character. What a step does is said once
(`Http.Uri.Scan.Steps`), and what is known after all steps follows by induction
(`Http.Uri.Scan.Knows`).
-/

namespace ReplayProxy

/-! ### Decimal numbers -/

namespace Ascii

theorem isDigit_of_mem_toDigits {n : Nat} {c : Char} (h : c ∈ Nat.toDigits 10 n) :
    isDigit c = true :=
  isDigit_iff.2 (Char.isDigit_iff_toNat.1 (Nat.isDigit_of_mem_toDigits (by decide) (by decide) h))

theorem decimal?_toDigits (n : Nat) : decimal? (Nat.toDigits 10 n) = some n := by
  have hempty : (Nat.toDigits 10 n).isEmpty = false :=
    List.isEmpty_eq_false_iff.2 Nat.toDigits_ne_nil
  have hall : (Nat.toDigits 10 n).all isDigit = true :=
    List.all_eq_true.2 fun c hc => isDigit_of_mem_toDigits hc
  have hvalue := @Nat.ofDigitChars_ten_toDigits n
  rw [Nat.ofDigitChars] at hvalue
  rw [decimal?, hempty, hall]
  simpa [Nat.mul_comm] using hvalue

theorem decimal?_eq_none {cs : List Char} {c : Char} (hc : c ∈ cs) (hdigit : isDigit c = false) :
    decimal? cs = none := by
  have hall : cs.all isDigit = false := by
    refine List.all_eq_false.2 ⟨c, hc, ?_⟩
    rw [hdigit]
    exact Bool.false_ne_true
  rw [decimal?, hall, Bool.not_false, Bool.or_true, if_pos rfl]

end Ascii

namespace Http.Uri

/-! ### Reading an authority -/

/-- What reading one character does. -/
structure Scan.Steps (s : Scan) (c : Char) (t : Scan) : Prop where
  colons : t.colons =
    if c = '@' ∨ c = ']' then 0 else if c = ':' then s.colons + 1 else s.colons
  opened : t.opened = (s.opened || c == '[')
  closed : t.closed = (s.closed || c == ']')
  /-- There is one pair of brackets, and it is opened before it is closed. -/
  once : c = '[' → s.opened = false
  order : c = ']' → s.opened = true

theorem Scan.steps_of_step {s t : Scan} {c : Char} (h : s.step c = some t) : Steps s c t := by
  unfold step at h
  by_cases hcolon : c = ':'
  · subst hcolon
    simp only [if_true, Option.ite_none_left_eq_some, Option.some.injEq] at h
    obtain ⟨-, rfl⟩ := h
    exact ⟨by simp, by simp, by simp, by simp, by simp⟩
  by_cases hopen : c = '['
  · subst hopen
    simp only [hcolon, if_true, if_false, Option.ite_none_left_eq_some, Option.some.injEq,
      Bool.or_eq_true, not_or, Bool.not_eq_true] at h
    obtain ⟨⟨-, hopened⟩, rfl⟩ := h
    exact ⟨by simp, by simp, by simp, fun _ => hopened, by simp⟩
  by_cases hclose : c = ']'
  · subst hclose
    simp only [hcolon, hopen, if_true, if_false, Option.ite_none_left_eq_some, Option.some.injEq,
      Bool.or_eq_true, not_or, Bool.not_eq_true, Bool.not_eq_eq_eq_not, Bool.not_true,
      Bool.not_eq_false] at h
    obtain ⟨⟨hopened, -⟩, rfl⟩ := h
    exact ⟨by simp, by simp, by simp, by simp, fun _ => hopened⟩
  -- no other character has to do with brackets, and only an at sign with colons
  by_cases hat : c = '@'
  · subst hat
    simp only [hcolon, hopen, hclose, if_true, if_false, Option.some.injEq] at h
    subst h
    exact ⟨by simp, by simp, by simp, by simp, by simp⟩
  have hstays : t.opened = s.opened ∧ t.closed = s.closed ∧ t.colons = s.colons := by
    simp only [hcolon, hopen, hclose, hat, if_false] at h
    split at h
    · cases h
      exact ⟨rfl, rfl, rfl⟩
    · rw [Option.ite_none_right_eq_some, Option.some_inj] at h
      obtain ⟨-, rfl⟩ := h
      exact ⟨rfl, rfl, rfl⟩
  exact ⟨by simp [hstays, hat, hclose, hcolon], by simp [hstays, hopen],
    by simp [hstays, hclose], by simp [hopen], by simp [hclose]⟩

/-- What an authority ends with, behind user information and brackets. -/
def behind (cs : List Char) : List Char :=
  (cs.reverse.takeWhile fun c => c != '@' && c != ']').reverse

theorem behind_concat (cs : List Char) (c : Char) :
    behind (cs ++ [c]) = if c = '@' ∨ c = ']' then [] else behind cs ++ [c] := by
  unfold behind
  rw [List.reverse_append, List.reverse_singleton, List.singleton_append, List.takeWhile_cons]
  by_cases hc : c = '@' ∨ c = ']'
  · rw [if_pos hc, if_neg (by rcases hc with rfl | rfl <;> decide)]
    rfl
  · rw [not_or] at hc
    rw [if_neg (not_or.2 hc), if_pos (by simp [hc]), List.reverse_cons]

/-- What is known when characters have been read. -/
structure Scan.Knows (cs : List Char) (s : Scan) : Prop where
  colons : s.colons = (behind cs).count ':'
  order : s.closed = true → s.opened = true
  /-- An opening bracket is closed by what comes behind it. -/
  brackets : ∀ before after, cs = before ++ '[' :: after →
    s.opened = true ∧ (s.closed = true ↔ ']' ∈ after)

theorem Scan.Knows.step {cs : List Char} {s t : Scan} {c : Char} (h : Knows cs s)
    (hstep : s.step c = some t) : Knows (cs ++ [c]) t := by
  have hs := steps_of_step hstep
  refine ⟨?_, ?_, ?_⟩
  · rw [hs.colons, behind_concat, h.colons]
    by_cases hmark : c = '@' ∨ c = ']'
    · rw [if_pos hmark, if_pos hmark, List.count_nil]
    · rw [if_neg hmark, if_neg hmark, List.count_append, List.count_singleton]
      by_cases hcolon : c = ':'
      · simp [hcolon]
      · simp [hcolon]
  · rw [hs.closed, hs.opened, Bool.or_eq_true, Bool.or_eq_true, beq_iff_eq]
    rintro (hclosed | hclose)
    · exact .inl (h.order hclosed)
    · exact .inl (hs.order hclose)
  · intro before after hsplit
    rw [hs.opened, hs.closed]
    rcases List.eq_nil_or_concat after with rfl | ⟨after, c', rfl⟩
    · -- the bracket has just been opened, and nothing was closed before that
      obtain ⟨rfl, hc⟩ := List.append_inj' hsplit rfl
      obtain rfl : c = '[' := List.head_eq_of_cons_eq hc
      have hopened := hs.once rfl
      have hclosed : s.closed = false := by
        rw [← Bool.not_eq_true]
        intro hclosed
        rw [h.order hclosed] at hopened
        cases hopened
      simp [hclosed]
    · rw [List.concat_eq_append, ← List.cons_append, ← List.append_assoc] at hsplit
      obtain ⟨hcs, hc⟩ := List.append_inj' hsplit rfl
      obtain rfl : c = c' := List.head_eq_of_cons_eq hc
      obtain ⟨hopened, hclosed⟩ := h.brackets before after hcs
      refine ⟨by rw [hopened, Bool.true_or], ?_⟩
      rw [Bool.or_eq_true, hclosed, beq_iff_eq, List.concat_eq_append, List.mem_append,
        List.mem_singleton, eq_comm]

theorem Scan.knows_of_foldlM {cs : List Char} {s : Scan}
    (h : cs.foldlM Scan.step ({} : Scan) = some s) : Knows cs s := by
  induction cs using List.reverseRecOn generalizing s with
  | nil =>
    obtain rfl : {} = s := Option.some.inj h
    exact ⟨rfl, nofun, fun before after hsplit => by simp at hsplit⟩
  | append_singleton cs c ih =>
    rw [List.foldlM_append, Option.bind_eq_bind, Option.bind_eq_some_iff] at h
    obtain ⟨s', hread, hstep⟩ := h
    rw [List.foldlM_cons, Option.bind_eq_bind, Option.bind_eq_some_iff] at hstep
    obtain ⟨t, hstep, hlast⟩ := hstep
    obtain rfl : t = s := Option.some.inj hlast
    exact (ih hread).step hstep

/-- A text is an authority if it can be read to its end, and may end there. -/
theorem authority?_eq_some_iff {a : String} :
    authority? a = some a ↔ a ≠ "" ∧ (∀ c ∈ a.toList, endsAuthority c = false) ∧
      ∃ s, a.toList.foldlM Scan.step ({} : Scan) = some s ∧ s.complete = true := by
  have hread : isAuthority a.toList = true ↔
      ∃ s, a.toList.foldlM Scan.step ({} : Scan) = some s ∧ s.complete = true := by
    unfold isAuthority
    cases a.toList.foldlM Scan.step ({} : Scan) <;> simp
  rw [← hread]
  simp only [authority?, Option.ite_none_left_eq_some, Bool.or_eq_true, not_or,
    Bool.not_eq_eq_eq_not, Bool.not_true, Bool.not_eq_false, and_true, and_assoc,
    String.isEmpty_iff, List.any_eq_true, not_exists, not_and, Bool.not_eq_true]

theorem Scan.complete_iff {s : Scan} :
    s.complete = true ↔
      s.opened = s.closed ∧ s.colons ≤ 1 ∧ s.atSign = false ∧ s.percent = false := by
  simp only [complete, Bool.and_eq_true, beq_iff_eq, decide_eq_true_eq, Bool.not_eq_eq_eq_not,
    Bool.not_true, and_assoc]

/-! ### Ports -/

/-- No colon stands behind user information and brackets. -/
def Portless (authority : String) : Prop := ':' ∉ behind authority.toList

instance : DecidablePred Portless := fun _ => inferInstanceAs (Decidable (_ ∉ _))

/-- An authority with a port written to it. -/
def withPort (authority : String) (port : Nat) : String := authority ++ ":" ++ toString port

theorem toList_withPort (authority : String) (port : Nat) :
    (withPort authority port).toList = authority.toList ++ ':' :: Nat.toDigits 10 port := by
  simp [withPort, Nat.repr]

theorem foldlM_digits {s : Scan} (hs : s.atSign = false) {cs : List Char}
    (hcs : ∀ c ∈ cs, Ascii.isDigit c = true) : cs.foldlM Scan.step s = some s := by
  induction cs with
  | nil => rfl
  | cons c cs ih =>
    -- a digit is none of the marks, so it leaves no trace
    obtain ⟨hc, hcs⟩ := List.forall_mem_cons.1 hcs
    have hne : ∀ k, Ascii.isDigit k = false → c ≠ k := by
      rintro k hk rfl
      rw [hc] at hk
      cases hk
    have hin : inAuthority c = true := by simp [inAuthority, Ascii.isAlphanumeric, hc]
    have hstep : s.step c = some s := by
      rw [Scan.step, if_neg (hne ':' (by decide)), if_neg (hne '[' (by decide)),
        if_neg (hne ']' (by decide)), if_neg (hne '@' (by decide)), if_neg (hne '%' (by decide)),
        if_pos hin, ← hs]
    rw [List.foldlM_cons, hstep]
    exact ih hcs

/-- A port can be written to an authority if it has none. -/
theorem authority?_withPort_iff {a : String} (ha : authority? a = some a) (port : Nat) :
    authority? (withPort a port) = some (withPort a port) ↔ Portless a := by
  obtain ⟨-, hends, s, hread, hcomplete⟩ := authority?_eq_some_iff.1 ha
  -- the colon in front of the port is counted with those that stand where it does
  have hcolons := (Scan.knows_of_foldlM hread).colons
  obtain ⟨hbrackets, hcount, hat, hpercent⟩ := Scan.complete_iff.1 hcomplete
  have hstep : s.step ':' = some { s with colons := s.colons + 1, atSign := false } := by
    rw [Scan.step, if_pos rfl, if_neg (by omega)]
  have hwhole : (withPort a port).toList.foldlM Scan.step ({} : Scan) =
      some { s with colons := s.colons + 1, atSign := false } := by
    rw [toList_withPort, List.foldlM_append, hread, Option.bind_eq_bind, Option.bind_some,
      List.foldlM_cons, hstep]
    exact foldlM_digits rfl fun c hc => Ascii.isDigit_of_mem_toDigits hc
  have hnone : ∀ c ∈ (withPort a port).toList, endsAuthority c = false := by
    rw [toList_withPort]
    refine List.forall_mem_append.2 ⟨hends, List.forall_mem_cons.2 ⟨by decide, ?_⟩⟩
    intro c hc
    have hdigit := Ascii.isDigit_of_mem_toDigits hc
    rw [← Bool.not_eq_true]
    intro hend
    simp only [endsAuthority, Bool.or_eq_true, beq_iff_eq] at hend
    rcases hend with (rfl | rfl) | rfl <;> cases hdigit
  have hne : withPort a port ≠ "" := by
    rw [Ne, ← String.toList_inj, toList_withPort]
    simp
  rw [authority?_eq_some_iff, hwhole, Portless, ← List.count_eq_zero, ← hcolons]
  simp only [Option.some.injEq, exists_eq_left', Scan.complete_iff, hbrackets, hpercent]
  constructor
  · rintro ⟨-, -, -, hfew, -⟩
    omega
  · intro hnocolon
    exact ⟨hne, hnone, trivial, by omega, trivial, trivial⟩

/-- Going back from the end of an authority without a port, one comes to user information or to
brackets before one comes to a colon. -/
theorem exists_mark_of_portless {a : String} (h : Portless a) (hcolon : ':' ∈ a.toList) :
    ∃ mark ∈ a.toList.reverse.takeWhile (· != ':'), mark = '@' ∨ mark = ']' := by
  rw [Portless, behind, List.mem_reverse] at h
  -- what is behind all marks has no colon, so it is not the whole authority
  have hne : a.toList.reverse.takeWhile (fun c => c != '@' && c != ']') ≠ a.toList.reverse := by
    intro hall
    rw [hall, List.mem_reverse] at h
    exact h hcolon
  obtain ⟨mark, rest, hdrop⟩ := List.exists_cons_of_ne_nil
    (mt List.dropWhile_eq_nil_iff.1 fun hall => hne (List.takeWhile_eq_self_iff.2 hall))
  have hmark : mark = '@' ∨ mark = ']' := by
    have hstop := List.head?_dropWhile_not (fun c => c != '@' && c != ']') a.toList.reverse
    rw [hdrop] at hstop
    simp only [List.head?_cons, Bool.and_eq_false_iff, bne_eq_false_iff_eq] at hstop
    exact hstop
  refine ⟨mark, ?_, hmark⟩
  rw [← List.takeWhile_append_dropWhile (p := fun c => c != '@' && c != ']')
    (l := a.toList.reverse), hdrop, List.takeWhile_append_of_pos, List.takeWhile_cons_of_pos]
  · exact List.mem_append_right _ List.mem_cons_self
  · rcases hmark with rfl | rfl <;> decide
  · intro c hc
    exact bne_iff_ne.2 fun hsame => h (hsame ▸ hc)

/-- What follows the last colon of an authority without a port is no number. -/
theorem portOf?_of_portless {a : String} (h : Portless a) : portOf? a = none := by
  rw [portOf?_eq]
  split
  · rfl
  · next hcolon =>
    rw [Bool.not_eq_false, List.contains_iff_mem] at hcolon
    obtain ⟨mark, hmem, hmark⟩ := exists_mark_of_portless h hcolon
    have hplus : mark ≠ '+' ∧ Ascii.isDigit mark = false := by
      rcases hmark with rfl | rfl <;> decide
    generalize hdigits : (a.toList.reverse.takeWhile (· != ':')).reverse = digits
    rw [← List.mem_reverse, hdigits] at hmem
    -- the mark is not dropped as a plus sign is
    have hstays : mark ∈ if digits.head? = some '+' then digits.tail else digits := by
      split
      · next hhead =>
        obtain ⟨tail, rfl⟩ := List.head?_eq_some_iff.1 hhead
        exact (List.mem_cons.1 hmem).resolve_left hplus.1
      · exact hmem
    show (Ascii.decimal? (if digits.head? = some '+' then digits.tail else digits)).bind _ = none
    rw [Ascii.decimal?_eq_none hstays hplus.2]
    rfl

/-- The port that was written is read. -/
theorem portOf?_withPort (a : String) (port : Nat) :
    portOf? (withPort a port) = if port ≤ 65535 then some (UInt16.ofNat port) else none := by
  -- seen from behind, the digits end at the colon that was written
  have hdigits : ((withPort a port).toList.reverse.takeWhile (· != ':')).reverse =
      Nat.toDigits 10 port := by
    rw [toList_withPort, List.reverse_append, List.reverse_cons, List.append_assoc,
      List.takeWhile_append_of_pos]
    · simp
    · intro c hc
      have hdigit := Ascii.isDigit_of_mem_toDigits (List.mem_reverse.1 hc)
      rw [bne_iff_ne]
      rintro rfl
      cases hdigit
  have hhead : (Nat.toDigits 10 port).head? ≠ some '+' := by
    intro hplus
    have hdigit := Ascii.isDigit_of_mem_toDigits (List.mem_of_head? hplus)
    cases hdigit
  have hcolon : (withPort a port).toList.contains ':' = true := by
    rw [toList_withPort]
    simp
  rw [portOf?_eq, hcolon, if_neg (by decide), hdigits]
  show (Ascii.decimal? (if _ then _ else _)).bind _ = _
  rw [if_neg hhead, Ascii.decimal?_toDigits]
  rfl

/-! ### Hosts -/

theorem placeOf_withPort (a : String) (port : Nat) :
    placeOf (withPort a port) = placeOf a ++ ':' :: Nat.toDigits 10 port := by
  rw [placeOf, placeOf, toList_withPort, List.reverse_append, List.takeWhile_append_of_pos,
    List.reverse_append, List.reverse_reverse]
  intro c hc
  rw [List.mem_reverse, List.mem_cons] at hc
  rw [bne_iff_ne]
  rintro rfl
  rcases hc with hcolon | hdigit
  · exact absurd hcolon (by decide)
  · exact absurd (Ascii.isDigit_of_mem_toDigits hdigit) (by decide)

theorem placeOf_suffix (a : String) : placeOf a <:+ a.toList := by
  rw [placeOf, ← List.reverse_prefix, List.reverse_reverse]
  exact List.takeWhile_prefix _

/-- The brackets of an address are closed. -/
theorem mem_placeOf_of_bracket {a : String} (ha : authority? a = some a)
    (hbracket : (placeOf a).head? = some '[') : ']' ∈ placeOf a := by
  obtain ⟨address, haddress⟩ := List.head?_eq_some_iff.1 hbracket
  obtain ⟨-, -, s, hread, hcomplete⟩ := authority?_eq_some_iff.1 ha
  obtain ⟨before, hsplit⟩ := placeOf_suffix a
  rw [haddress] at hsplit
  obtain ⟨hopened, hclosed⟩ := (Scan.knows_of_foldlM hread).brackets before address hsplit.symm
  rw [haddress]
  refine List.mem_cons_of_mem '[' (hclosed.1 ?_)
  rw [← (Scan.complete_iff.1 hcomplete).1, hopened]

/-- Writing a port leaves the host. -/
theorem hostOf_withPort {a : String} (ha : authority? a = some a) (port : Nat) :
    hostOf (withPort a port) = hostOf a := by
  have hwhole : ∀ p : Char → Bool,
      ((placeOf a).takeWhile p).length = (placeOf a).length → (placeOf a).takeWhile p = placeOf a :=
    fun p hlength => (List.takeWhile_prefix p).eq_of_length hlength
  rw [← String.toList_inj, toList_hostOf, toList_hostOf, placeOf_withPort]
  by_cases hbracket : (placeOf a).head? = some '['
  · -- the address ends before the port
    have htake : (placeOf a ++ ':' :: Nat.toDigits 10 port).takeWhile (· != ']') =
        (placeOf a).takeWhile (· != ']') := by
      rw [List.takeWhile_append, if_neg]
      intro hlength
      have hall := List.takeWhile_eq_self_iff.1 (hwhole _ hlength)
      exact absurd (hall ']' (mem_placeOf_of_bracket ha hbracket)) (by decide)
    rw [if_pos hbracket, htake, if_pos (by rw [List.head?_append, hbracket]; rfl)]
  · have htake : (placeOf a ++ ':' :: Nat.toDigits 10 port).takeWhile (· != ':') =
        (placeOf a).takeWhile (· != ':') := by
      rw [List.takeWhile_append, List.takeWhile_cons_of_neg (by decide), List.append_nil]
      split
      · next hlength => exact (hwhole _ hlength).symm
      · rfl
    have hhead : (placeOf a ++ ':' :: Nat.toDigits 10 port).head? ≠ some '[' := by
      cases hplace : placeOf a with
      | nil => simp
      | cons c place => simpa [hplace] using hbracket
    rw [if_neg hbracket, htake, if_neg hhead]

/-- A host and nothing else: a name, or an address in brackets. -/
def Bare (cs : List Char) : Prop :=
  '@' ∉ cs ∧ ((cs.head? ≠ some '[' ∧ ':' ∉ cs) ∨
    ∃ address, cs = '[' :: address ++ [']'] ∧ ']' ∉ address)

theorem placeOf_of_not_mem {a : String} (h : '@' ∉ a.toList) : placeOf a = a.toList := by
  have hall : a.toList.reverse.takeWhile (· != '@') = a.toList.reverse := by
    refine List.takeWhile_eq_self_iff.2 fun c hc => bne_iff_ne.2 ?_
    rintro rfl
    exact h (List.mem_reverse.1 hc)
  rw [placeOf, hall, List.reverse_reverse]

/-- A host has no user information. -/
theorem not_mem_hostOf (a : String) : '@' ∉ (hostOf a).toList := by
  have hplace : '@' ∉ placeOf a := by
    intro hmem
    exact absurd (List.mem_takeWhile_imp (List.mem_reverse.1 hmem)) (by decide)
  have htake : ∀ p : Char → Bool, '@' ∉ (placeOf a).takeWhile p := fun p hmem =>
    hplace ((List.takeWhile_prefix p).subset hmem)
  rw [toList_hostOf]
  split
  · rw [List.mem_append, List.mem_singleton, not_or]
    exact ⟨htake _, by decide⟩
  · exact htake _

/-- An authority is its own host if it is nothing else. -/
theorem hostOf_eq_self_iff {a : String} : hostOf a = a ↔ Bare a.toList := by
  by_cases hat : '@' ∈ a.toList
  · refine iff_of_false ?_ fun hbare => hbare.1 hat
    intro hsame
    rw [← hsame] at hat
    exact not_mem_hostOf a hat
  · rw [Bare, and_iff_right hat, ← String.toList_inj, toList_hostOf, placeOf_of_not_mem hat]
    -- an address ends with the first bracket that closes it, and a name at its first colon
    by_cases hbracket : a.toList.head? = some '['
    · obtain ⟨tail, htail⟩ := List.head?_eq_some_iff.1 hbracket
      rw [if_pos hbracket, htail, List.takeWhile_cons_of_pos (by decide), List.cons_append,
        List.cons.injEq]
      constructor
      · rintro ⟨-, hclosed⟩
        refine .inr ⟨tail.takeWhile (· != ']'), by rw [List.cons_append, hclosed], ?_⟩
        intro hmem
        exact absurd (List.mem_takeWhile_imp hmem) (by decide)
      · rintro (⟨hhead, -⟩ | ⟨address, haddress, hnone⟩)
        · exact absurd List.head?_cons hhead
        · obtain rfl : tail = address ++ [']'] := (List.cons.inj haddress).2
          refine ⟨rfl, ?_⟩
          rw [List.takeWhile_append_of_pos]
          · simp
          · exact fun c hc => bne_iff_ne.2 fun hclose => hnone (hclose ▸ hc)
    · rw [if_neg hbracket, List.takeWhile_eq_self_iff]
      constructor
      · intro hall
        exact .inl ⟨hbracket, fun hmem => absurd (hall ':' hmem) (by decide)⟩
      · rintro (⟨-, hnone⟩ | ⟨address, haddress, -⟩)
        · exact fun c hc => bne_iff_ne.2 fun hcolon => hnone (hcolon ▸ hc)
        · rw [haddress] at hbracket
          exact absurd rfl hbracket

theorem bare_of_map_toLower {cs : List Char} (h : Bare (cs.map Char.toLower)) : Bare cs := by
  obtain ⟨hat, hrest⟩ := h
  have hmem : ∀ k : Char, k.toLower = k → k ∈ cs → k ∈ cs.map Char.toLower := fun k hk hin =>
    List.mem_map.2 ⟨k, hin, hk⟩
  refine ⟨mt (hmem '@' (by decide)) hat, ?_⟩
  rcases hrest with ⟨hhead, hcolon⟩ | ⟨address, haddress, hnone⟩
  · exact .inl ⟨mt (head?_map_toLower (by decide) cs).2 hhead, mt (hmem ':' (by decide)) hcolon⟩
  · -- brackets are spelled in one way
    rw [List.cons_append, List.map_eq_cons_iff] at haddress
    obtain ⟨c, rest, rfl, hopen, hrest⟩ := haddress
    obtain ⟨inner, last, rfl, rfl, hlast⟩ := List.map_eq_append_iff.1 hrest
    obtain ⟨k, rfl, hclose⟩ := List.map_eq_singleton_iff.1 hlast
    obtain rfl : c = '[' := (Ascii.toLower_eq_iff (by decide)).1 hopen
    obtain rfl : k = ']' := (Ascii.toLower_eq_iff (by decide)).1 hclose
    refine .inr ⟨inner, rfl, fun hin => hnone (List.mem_map.2 ⟨']', hin, by decide⟩)⟩

/-- The host of an authority that is more than a host is another text in every spelling. -/
theorem lower_hostOf_eq_iff {a : String} :
    Ascii.lower (hostOf a) = Ascii.lower a ↔ Bare a.toList := by
  constructor
  · -- the host of the small spelling is its small spelling
    intro h
    rw [← hostOf_lower, hostOf_eq_self_iff, Ascii.toList_lower] at h
    exact bare_of_map_toLower h
  · intro h
    rw [hostOf_eq_self_iff.2 h]

end Http.Uri

end ReplayProxy
