import ReplayProxy.Proofs.Json.Grammar

/-!
# Blanks between tokens

A token is taken off the front of a text without a look at what stands behind it, except that a
number goes on as long as it can. So when the text behind a token changes, the token stays
(`Token.next?_append`), provided that a number is not continued by what follows now. In a text that
is accepted a number is always followed by a comma, by a closing bracket or by nothing
(`Token.Apart`); therefore blanks may come and go at every place between two tokens
(`Token.Boundary`).

Main statement:

* `Token.all_of_blanks`: blanks between two tokens make no difference to the tokens.
-/

namespace ReplayProxy.Json

/-- A text that is nothing but blanks. -/
def Blanks (s : Bytes) : Prop := ∀ b ∈ s, isSpace b = true

namespace Token

/-! ### Numbers, whatever follows -/

/-- The text does not begin with a digit. -/
def NoDigit (s : Bytes) : Prop := ∀ b ∈ s.head?, isDigitByte b = false

theorem NoDigit.of_stops {s : Bytes} (h : Stops s) : NoDigit s := fun b hb => (h b hb).1

theorem digits_append {p s : Bytes} (hp : ∀ b ∈ p, isDigitByte b = true) (hs : NoDigit s) :
    digits (p ++ s) = (p.map fun b => b.toNat - 0x30, s) := by
  rw [digits, List.takeWhile_append_of_pos hp, List.dropWhile_append_of_pos hp]
  cases s with
  | nil => simp
  | cons b s => simp [hs b rfl]

/-- Digits are read up to something else. -/
theorem exists_digits (s : Bytes) : ∃ p r, s = p ++ r ∧ (∀ b ∈ p, isDigitByte b = true) ∧
    digits s = (p.map fun b => b.toNat - 0x30, r) := by
  refine ⟨s.takeWhile isDigitByte, s.dropWhile isDigitByte,
    List.takeWhile_append_dropWhile.symm, fun b hb => ?_, rfl⟩
  have hall := List.all_takeWhile (p := isDigitByte) (l := s)
  exact List.all_eq_true.1 hall b hb

theorem noDigit_cons {b : UInt8} (h : isDigitByte b = false) (s : Bytes) : NoDigit (b :: s) := by
  intro x hx
  rw [List.head?_cons, Option.mem_some] at hx
  exact hx ▸ h

/-- A part of a numeral that may be missing: it is empty, or it begins with its mark. -/
def Begins (mark : UInt8 → Prop) (p : Bytes) : Prop := ∀ b ∈ p.head?, mark b

theorem sign_append {e : Bytes} {p s : Bytes} (hp : ∀ b ∈ p, isDigitByte b = true) (hne : p ≠ [])
    (he : e = [] ∨ e = [0x2D] ∨ e = [0x2B]) :
    (sign (e ++ p ++ s)) = (e == [0x2D], p ++ s) := by
  -- without a sign the digits come first, and a digit is no sign
  rcases he with rfl | rfl | rfl
  · cases p with
    | nil => exact absurd rfl hne
    | cons b p =>
      have hb := hp b List.mem_cons_self
      rw [List.nil_append, List.cons_append, sign]
      · rfl
      · rintro r heq
        cases heq
        exact absurd hb (by decide)
      · rintro r heq
        cases heq
        exact absurd hb (by decide)
  · rfl
  · rfl

theorem exists_sign (s : Bytes) :
    ∃ e r, (e = [] ∨ e = [0x2D] ∨ e = [0x2B]) ∧ s = e ++ r ∧ sign s = (e == [0x2D], r) := by
  unfold sign
  split
  · next r => exact ⟨[0x2D], r, .inr (.inl rfl), rfl, rfl⟩
  · next r => exact ⟨[0x2B], r, .inr (.inr rfl), rfl, rfl⟩
  · exact ⟨[], s, .inl rfl, rfl, rfl⟩

/-- The exponent, if there is one, in front of anything that does not go on with it. -/
theorem exponent?_append {s u : Bytes} {x : Option (Bool × List Nat)}
    (h : exponent? s = some (x, u)) :
    ∃ p, s = p ++ u ∧ Begins (fun b => b = 0x65 ∨ b = 0x45) p ∧
      ∀ u', Stops u' → exponent? (p ++ u') = some (x, u') := by
  cases s with
  | nil =>
    cases h
    exact ⟨[], rfl, by simp [Begins], fun u' hu' => exponent?_of_stops hu'⟩
  | cons b rest =>
    rw [exponent?] at h
    by_cases hmark : b = 0x65 ∨ b = 0x45
    · rw [if_pos hmark] at h
      -- behind the mark there may be a sign, and then there are the digits
      obtain ⟨e, r, he, hrest, hsign⟩ := exists_sign rest
      obtain ⟨p, v, hr, hp, hdigits⟩ := exists_digits r
      rw [hsign] at h
      simp only [hdigits] at h
      cases p with
      | nil => cases h
      | cons c p =>
        rw [List.map_cons] at h
        simp only [Option.some.injEq, Prod.mk.injEq] at h
        obtain ⟨hx, rfl⟩ := h
        refine ⟨b :: (e ++ (c :: p)), ?_, ?_, fun u' hu' => ?_⟩
        · rw [hrest, hr]
          simp
        · intro x hx
          rw [List.head?_cons, Option.mem_some] at hx
          exact hx ▸ hmark
        · rw [List.cons_append, exponent?, if_pos hmark, sign_append hp (by simp) he]
          simp only [digits_append hp (.of_stops hu'), List.map_cons]
          rw [← hx]
    · rw [if_neg hmark] at h
      cases h
      exact ⟨[], rfl, by simp [Begins], fun u' hu' => exponent?_of_stops hu'⟩

/-- The fraction, if there is one, in front of anything that does not go on with it. -/
theorem fraction?_append {s u : Bytes} {x : List Nat} (h : fraction? s = some (x, u)) :
    ∃ p, s = p ++ u ∧ Begins (· = 0x2E) p ∧
      ∀ u', NoDigit u' → (∀ b ∈ u'.head?, b ≠ 0x2E) → fraction? (p ++ u') = some (x, u') := by
  have hnone : ∀ u' : Bytes, (∀ b ∈ u'.head?, b ≠ 0x2E) → fraction? u' = some ([], u') := by
    intro u' hdot
    rw [fraction?]
    rintro rest rfl
    exact hdot _ rfl rfl
  -- a fraction begins with a point and has a digit, or there is none
  by_cases hdot : ∃ rest, s = 0x2E :: rest
  · obtain ⟨rest, rfl⟩ := hdot
    obtain ⟨p, v, hrest, hp, hdigits⟩ := exists_digits rest
    rw [fraction?, hdigits] at h
    cases p with
    | nil => cases h
    | cons c p =>
      rw [List.map_cons] at h
      simp only [Option.some.injEq, Prod.mk.injEq] at h
      obtain ⟨hx, rfl⟩ := h
      refine ⟨0x2E :: c :: p, ?_, ?_, fun u' hu' _ => ?_⟩
      · rw [hrest]
        rfl
      · intro x hx
        exact (Option.mem_some.1 hx).symm
      · rw [List.cons_append, fraction?, digits_append hp hu', List.map_cons]
        rw [← hx]
  · have hhead : ∀ b ∈ s.head?, b ≠ 0x2E := by
      rintro b hb rfl
      cases s with
      | nil => cases hb
      | cons c s =>
        cases hb
        exact hdot ⟨s, rfl⟩
    rw [hnone s hhead] at h
    cases h
    exact ⟨[], rfl, by simp [Begins], fun u' _ hu' => hnone u' hu'⟩

/-- What begins with a mark, or with what stops a number, does not go on with its digits. -/
theorem noDigit_append {mark : UInt8 → Prop} {p s : Bytes} (hp : Begins mark p)
    (hmark : ∀ b, mark b → isDigitByte b = false) (hs : NoDigit s) : NoDigit (p ++ s) := by
  cases p with
  | nil => exact hs
  | cons b p => exact noDigit_cons (hmark b (hp b rfl)) _

/-- What a number is once its digits before the point have been read. -/
theorem numeral?_of_digits {negative : Bool} {s r : Bytes} {whole : List Nat}
    (hdigits : digits s = (whole, r)) (hne : whole ≠ [])
    (hlead : ∀ d ds, whole ≠ 0 :: d :: ds) :
    numeral? negative s = (fraction? r).bind fun q => (exponent? q.2).map fun q' =>
      (⟨negative, whole, q.1, q'.1⟩, q'.2) := by
  rw [numeral?, hdigits]
  split
  · next heq => cases heq; exact absurd rfl hne
  · next heq => cases heq; exact absurd rfl (hlead _ _)
  · next heq =>
    cases heq
    rcases fraction? r with _ | ⟨fraction, r'⟩
    · rfl
    · simp only [Option.bind_eq_bind, Option.bind_some]
      rcases exponent? r' with _ | ⟨exponent, r''⟩ <;> rfl

/-- The digits before the point of a number: there are some, and no zero leads others. -/
theorem lead_of_numeral? {negative : Bool} {s r : Bytes} {whole : List Nat}
    (hdigits : digits s = (whole, r)) {x : Numeral × Bytes} (h : numeral? negative s = some x) :
    whole ≠ [] ∧ ∀ d ds, whole ≠ 0 :: d :: ds := by
  rw [numeral?, hdigits] at h
  constructor
  · rintro rfl
    cases h
  · rintro d ds rfl
    cases h

/-- A number in front of anything that does not go on with it. -/
theorem numeral?_append {negative : Bool} {s u : Bytes} {n : Numeral}
    (h : numeral? negative s = some (n, u)) :
    ∃ p, s = p ++ u ∧ (∃ b q, p = b :: q ∧ isDigitByte b = true) ∧
      ∀ u', Stops u' → numeral? negative (p ++ u') = some (n, u') := by
  obtain ⟨p, r, rfl, hp, hdigits⟩ := exists_digits s
  obtain ⟨hne, hlead⟩ := lead_of_numeral? hdigits h
  rw [numeral?_of_digits hdigits hne hlead] at h
  simp only [Option.bind_eq_some_iff, Option.map_eq_some_iff, Prod.exists, Prod.mk.injEq] at h
  obtain ⟨fraction, r', hfraction, exponent, _, hexponent, rfl, rfl⟩ := h
  obtain ⟨p', rfl, hpoint, hfree⟩ := fraction?_append hfraction
  obtain ⟨p'', rfl, hmark, hfree'⟩ := exponent?_append hexponent
  refine ⟨p ++ (p' ++ p''), by simp, ?_, fun u' hu' => ?_⟩
  · cases p with
    | nil => exact absurd rfl hne
    | cons b q => exact ⟨b, q ++ (p' ++ p''), rfl, hp b List.mem_cons_self⟩
  · -- each part stops where the next one begins, and the last one where the text stops a number
    have hnodigit : NoDigit (p'' ++ u') :=
      noDigit_append hmark (by rintro b (rfl | rfl) <;> rfl) (.of_stops hu')
    have hnodot : ∀ b ∈ (p'' ++ u').head?, b ≠ 0x2E := by
      intro b hb
      cases p'' with
      | nil => exact (hu' b hb).2.1
      | cons c p'' =>
        rintro rfl
        rcases hmark _ hb with h | h <;> cases h
    have hstop : NoDigit (p' ++ (p'' ++ u')) :=
      noDigit_append hpoint (by rintro b rfl; rfl) hnodigit
    rw [List.append_assoc, List.append_assoc,
      numeral?_of_digits (digits_append hp hstop) hne hlead, hfree _ hnodigit hnodot]
    simp only [Option.bind_some, hfree' u' hu', Option.map_some]

/-! ### Strings, whatever follows -/

/-- A string in front of anything. -/
theorem pieces_append {done : List Piece} {s u : Bytes} {ps : List Piece}
    (h : pieces done s = some (ps, u)) :
    ∃ p, s = p ++ u ∧ ∀ u', pieces done (p ++ u') = some (ps, u') := by
  fun_induction pieces done s with
  | case1 done rest =>
    cases h
    exact ⟨[0x22], rfl, fun u' => by simp [pieces]⟩
  | case2 done a b c d rest n hunit ih =>
    obtain ⟨p, rfl, hp⟩ := ih h
    exact ⟨0x5C :: 0x75 :: a :: b :: c :: d :: p, rfl, fun u' => by simp [pieces, hunit, hp]⟩
  -- an escape of one letter; `u` would begin one of four digits
  | case4 done e rest hfew b hescape ih =>
    obtain ⟨p, rfl, hp⟩ := ih h
    refine ⟨0x5C :: e :: p, rfl, fun u' => ?_⟩
    have hletter : e ≠ 0x75 := by
      rintro rfl
      cases hescape
    exact (pieces_letter done (p ++ u') hescape hletter).trans (hp u')
  | case7 done b rest hquote _ _ hplain ih =>
    obtain ⟨p, rfl, hp⟩ := ih h
    refine ⟨b :: p, rfl, fun u' => ?_⟩
    obtain ⟨hcontrol, hslash⟩ := not_or.1 hplain
    exact (pieces_byte done (p ++ u') hquote hslash hcontrol).trans (hp u')
  | case3 | case5 | case6 | case8 => cases h

/-! ### Tokens, whatever follows -/

/-- The text may stand behind the token: if that is a number, it stops there. -/
def Follows (u : Bytes) (t : Token) : Prop := ∀ n, t = .number n → Stops u

/-- A token in front of anything that may follow it. -/
theorem lex_append {c : UInt8} {s u : Bytes} {t : Token} (h : lex (c :: s) = (t, u))
    (ht : t ≠ .fault) :
    ∃ p, s = p ++ u ∧ ∀ u', Follows u' t → lex (c :: p ++ u') = (t, u') := by
  unfold lex at h
  split at h
  -- the six signs, and the three words
  iterate 6
    · next heq =>
      cases heq
      cases h
      exact ⟨[], rfl, fun _ _ => rfl⟩
  · next heq =>
    cases heq
    cases h
    exact ⟨[0x75, 0x6C, 0x6C], rfl, fun _ _ => rfl⟩
  · next heq =>
    cases heq
    cases h
    exact ⟨[0x72, 0x75, 0x65], rfl, fun _ _ => rfl⟩
  · next heq =>
    cases heq
    cases h
    exact ⟨[0x61, 0x6C, 0x73, 0x65], rfl, fun _ _ => rfl⟩
  · next r heq =>
    cases heq
    split at h
    · next ps r hpieces =>
      cases h
      obtain ⟨p, rfl, hp⟩ := pieces_append hpieces
      refine ⟨p, rfl, fun u' _ => ?_⟩
      rw [List.cons_append, lex, hp u']
    · cases h
      exact absurd rfl ht
  -- a number begins with a minus sign or with a digit
  · next r heq =>
    cases heq
    split at h
    · next n r hnumeral =>
      cases h
      obtain ⟨p, rfl, -, hp⟩ := numeral?_append hnumeral
      refine ⟨p, rfl, fun u' hu' => ?_⟩
      rw [List.cons_append, lex, hp u' (hu' n rfl)]
    · cases h
      exact absurd rfl ht
  · split at h
    · next n r hnumeral =>
      cases h
      obtain ⟨p, hs, ⟨b, q, rfl, hdigit⟩, hp⟩ := numeral?_append hnumeral
      cases hs
      refine ⟨q, rfl, fun u' hu' => ?_⟩
      rw [isDigitByte, Bool.and_eq_true, decide_eq_true_eq, decide_eq_true_eq,
        UInt8.le_iff_toNat_le, UInt8.le_iff_toNat_le] at hdigit
      exact lex_digit hdigit.1 hdigit.2 (hp u' (hu' n rfl))
    · cases h
      exact absurd rfl ht

/-- Blanks in front of a token are skipped. -/
theorem next?_blanks {b : Bytes} (hb : Blanks b) (s : Bytes) : next? (b ++ s) = next? s := by
  rw [next?, next?, List.dropWhile_append_of_pos hb]

theorem all_blanks {b : Bytes} (hb : Blanks b) (s : Bytes) : all (b ++ s) = all s := by
  have hnext := next?_blanks hb s
  cases h : next? s with
  | none => rw [all_of_none h, all_of_none (hnext.trans h)]
  | some p => rw [all_of_some h, all_of_some (hnext.trans h)]

/-- A text begins with blanks and then with the byte that a token begins with. -/
theorem exists_blanks (s : Bytes) :
    ∃ b r, s = b ++ r ∧ Blanks b ∧ (∀ c ∈ r.head?, isSpace c = false) := by
  refine ⟨s.takeWhile isSpace, s.dropWhile isSpace, List.takeWhile_append_dropWhile.symm,
    fun c hc => ?_, fun c hc => ?_⟩
  · exact List.all_eq_true.1 (List.all_takeWhile (p := isSpace) (l := s)) c hc
  · have hhead := List.head?_dropWhile_not isSpace s
    rw [Option.mem_def] at hc
    simpa [hc] using hhead

/-- The first token of a text in front of anything that may follow it. -/
theorem next?_append {s u : Bytes} {t : Token} (h : next? s = some (t, u)) (ht : t ≠ .fault) :
    ∃ p, s = p ++ u ∧ ∀ u', Follows u' t → next? (p ++ u') = some (t, u') := by
  obtain ⟨b, r, rfl, hb, hhead⟩ := exists_blanks s
  rw [next?_blanks hb] at h
  cases r with
  | nil => cases h
  | cons c r =>
    have hspace : isSpace c = false := hhead c rfl
    rw [next?_cons hspace, Option.some.injEq] at h
    obtain ⟨p, rfl, hp⟩ := lex_append h ht
    refine ⟨b ++ c :: p, by simp, fun u' hu' => ?_⟩
    rw [List.append_assoc, next?_blanks hb, List.cons_append, next?_cons hspace,
      ← List.cons_append, hp u' hu']

/-! ### Places between tokens -/

/-- The rest of a text from a place between two tokens, or in front of the first, or behind the
last. -/
inductive Boundary : Bytes → Bytes → Prop where
  | here (s : Bytes) : Boundary s s
  | next {s u v : Bytes} {t : Token} (h : next? s = some (t, u)) (hrest : Boundary u v) :
      Boundary s v

/-- A token that ends a number: it can neither be part of one nor begin a value. -/
def EndsNumber (t : Token) : Prop := t = .comma ∨ t = .closeArray ∨ t = .closeObject

/-- Tokens without a fault in which each number is followed by nothing or by what ends it. -/
def Apart : List Token → Prop
  | [] => True
  | .fault :: _ => False
  | .number _ :: ts => (∀ t ∈ ts.head?, EndsNumber t) ∧ Apart ts
  | _ :: ts => Apart ts

theorem Apart.tail {t : Token} {ts : List Token} (h : Apart (t :: ts)) : Apart ts := by
  cases t with
  | fault => exact h.elim
  | number n => exact h.2
  | _ => exact h

theorem Apart.ne_fault {t : Token} {ts : List Token} (h : Apart (t :: ts)) : t ≠ .fault := by
  rintro rfl
  exact h

theorem byte_of_endsNumber {c : UInt8} {r u : Bytes} {t : Token} (h : lex (c :: r) = (t, u))
    (ht : EndsNumber t) : c = 0x2C ∨ c = 0x5D ∨ c = 0x7D := by
  have hother : ∀ t : Token, t ≠ .comma → t ≠ .closeArray → t ≠ .closeObject → ¬EndsNumber t := by
    rintro t hcomma harray hobject (h | h | h)
    · exact hcomma h
    · exact harray h
    · exact hobject h
  unfold lex at h
  split at h
  case h_2 heq =>
    cases heq
    exact .inr (.inl rfl)
  case h_4 heq =>
    cases heq
    exact .inr (.inr rfl)
  case h_5 heq =>
    cases heq
    exact .inl rfl
  case h_1 | h_3 | h_6 | h_7 | h_8 | h_9 =>
    cases h
    exact absurd ht (hother _ nofun nofun nofun)
  -- a string and a number are tokens of their kind or faults
  case h_10 | h_11 | h_12 =>
    split at h
    · cases h
      exact absurd ht (hother _ nofun nofun nofun)
    · cases h
      exact absurd ht (hother _ nofun nofun nofun)

theorem stops_of_isSpace {c : UInt8} (h : isSpace c = true) (s : Bytes) : Stops (c :: s) := by
  simp only [isSpace, Bool.or_eq_true, beq_iff_eq] at h
  refine stops_cons ?_
  rcases h with ((rfl | rfl) | rfl) | rfl <;> decide

/-- A text whose first token ends a number does not go on with one. -/
theorem stops_of_head {s : Bytes} (h : ∀ t ∈ (all s).head?, EndsNumber t) : Stops s := by
  obtain ⟨b, r, rfl, hb, hhead⟩ := exists_blanks s
  cases b with
  | cons c b => exact stops_of_isSpace (hb c List.mem_cons_self) _
  | nil =>
    cases r with
    | nil => exact stops_nil
    | cons c r =>
      have hnext : next? (c :: r) = some (lex (c :: r)) := next?_cons (hhead c rfl) r
      rw [List.nil_append, all_of_some hnext] at h
      refine stops_cons ?_
      rcases byte_of_endsNumber (r := r) rfl (h _ rfl) with rfl | rfl | rfl <;> decide

/-- **Blanks.** The blanks at a place between two tokens make no difference to the tokens. -/
theorem all_of_blanks {p b b' u : Bytes} (hb : Blanks b) (hb' : Blanks b')
    (h : Boundary (p ++ (b ++ u)) (b ++ u)) (hapart : Apart (all (p ++ (b ++ u)))) :
    all (p ++ (b' ++ u)) = all (p ++ (b ++ u)) := by
  -- the tokens in front of the place stay one after the other, the last one first
  have hwalk : ∀ {s v : Bytes}, Boundary s v → v = b ++ u → Apart (all s) →
      ∃ q, s = q ++ (b ++ u) ∧ all (q ++ (b' ++ u)) = all s := by
    intro s v hboundary
    induction hboundary with
    | here s =>
      rintro rfl -
      exact ⟨[], rfl, (all_blanks hb' u).trans (all_blanks hb u).symm⟩
    | @next s w v t hnext _ ih =>
      intro hv hs
      rw [all_of_some hnext] at hs
      obtain ⟨q, rfl, hq⟩ := ih hv hs.tail
      obtain ⟨q', rfl, hfree⟩ := next?_append hnext hs.ne_fault
      have hfollows : Follows (q ++ (b' ++ u)) t := by
        rintro n rfl
        exact stops_of_head (hq ▸ hs.1)
      refine ⟨q' ++ q, by simp, ?_⟩
      rw [List.append_assoc, all_of_some (hfree _ hfollows), hq, all_of_some hnext]
  obtain ⟨q, hq, hall⟩ := hwalk h rfl hapart
  rw [← List.append_cancel_right hq] at hall
  exact hall

end Token

namespace Document

open Token (Apart Boundary EndsNumber)
open Json.Tree (Reader deliver)

theorem feed_fault (r : Reader) : ∃ v, r.feed .fault = .broken v := by
  obtain ⟨stack, want⟩ := r
  cases want <;> exact ⟨_, rfl⟩

/-- After a number comes a comma, or the end of what is open. -/
theorem want_of_feed_number {r r' : Reader} {n : Numeral} (h : r.feed (.number n) = .more r') :
    r'.want = .separator := by
  obtain ⟨stack, want⟩ := r
  -- a number is accepted where a value is due, and delivered
  cases want with
  | value | element =>
    change deliver stack (.number n) = .more r' at h
    cases stack <;> cases h
    rfl
  | member | name | colon | separator => cases h

theorem feed_separator {r : Reader} (hwant : r.want = .separator) {t : Token} :
    EndsNumber t ∨ ∃ v, r.feed t = .broken v := by
  obtain ⟨stack, want⟩ := r
  subst hwant
  cases t with
  | comma => exact .inl (.inl rfl)
  | closeArray => exact .inl (.inr (.inl rfl))
  | closeObject => exact .inl (.inr (.inr rfl))
  | _ => exact .inr ⟨_, rfl⟩

/-- What is accepted has no fault, and each number in it is followed by nothing or by what ends
it. -/
theorem apart_of_feedAll {r : Reader} {ts : List Token} {t : Tree}
    (h : feedAll r ts = ⟨t, true⟩) : Apart ts := by
  induction ts generalizing r with
  | nil => cases h
  | cons u ts ih =>
    rw [feedAll_cons] at h
    -- whatever the first token is, the others are accepted after it
    have hrest : Apart ts := by
      cases hfeed : r.feed u with
      | more r' => exact ih (hfeed ▸ h)
      | done v =>
        rw [hfeed] at h
        rw [List.isEmpty_iff.1 (Document.mk.inj h).2]
        trivial
      | broken v =>
        rw [hfeed] at h
        cases h
    cases u with
    | fault =>
      obtain ⟨v, hv⟩ := feed_fault r
      rw [hv] at h
      cases h
    | number n =>
      refine ⟨fun u hu => ?_, hrest⟩
      obtain ⟨ts, rfl⟩ : ∃ vs, ts = u :: vs := List.head?_eq_some_iff.1 hu
      -- behind a number only what ends it is accepted
      cases hfeed : r.feed (.number n) with
      | more r' =>
        rw [hfeed, goOn, feedAll_cons] at h
        refine (feed_separator (want_of_feed_number hfeed)).resolve_right ?_
        rintro ⟨v, hv⟩
        rw [hv] at h
        cases h
      | done v =>
        rw [hfeed] at h
        cases h
      | broken v =>
        rw [hfeed] at h
        cases h
    | _ => exact hrest

/-- The tokens of a text that writes a tree. -/
theorem Writes.apart {s : Bytes} {t : Tree} (h : Writes s t) : Apart (Token.all s) := by
  have hread := read_eq_iff_writes.2 h
  rw [read, readFrom_eq_feedAll] at hread
  exact apart_of_feedAll hread

/-- Blanks at a place between two tokens make no difference to the tree. -/
theorem Writes.of_blanks {p b b' u : Bytes} {t : Tree} (hb : Blanks b) (hb' : Blanks b')
    (hplace : Boundary (p ++ (b ++ u)) (b ++ u)) (h : Writes (p ++ (b ++ u)) t) :
    Writes (p ++ (b' ++ u)) t :=
  ⟨h.1, (Token.all_of_blanks hb hb' hplace h.apart).trans h.2⟩

end Document

end ReplayProxy.Json
