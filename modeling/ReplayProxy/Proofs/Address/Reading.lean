import Mathlib.Data.List.Basic
import Mathlib.Data.List.TakeWhile
import ReplayProxy.Address
import ReplayProxy.Proofs.Http.Ports

/-!
# Reading addresses

An address is read off the front of a text by readers that are put together from smaller ones. Two
properties are carried from the small readers to the large ones:

* `Address.Takes`: all characters that are taken are of one kind, so an address has no brackets,
  and an IPv4 address has no colons;
* `Address.Stops`: a character that can be no part of what is read ends the reading just as the
  end of the text does, so what is read as a whole is read in front of a port or a bracket too.

Every text of an IPv6 address has two colons at least (`IpAddress.text_of_v6`): with all
eight groups there are more, and without there are those that stand for the missing ones. By this
it is told apart from a host with a port.
-/

namespace ReplayProxy

namespace Address

variable {α β : Type} {p q : Char → Bool} {k : Char} {cs rest : List Char}

/-- What takes something off the front of a list of characters. -/
abbrev Reader (α : Type) := List Char → Option (α × List Char)

/-! ### What is taken -/

theorem char?_eq_some_iff {left : List Char} : char? k cs = some left ↔ cs = k :: left := by
  cases cs with
  | nil => simp [char?]
  | cons c cs => simp [char?]

/-- All that is taken is of one kind. -/
def Takes (p : Char → Bool) (read : Reader α) : Prop :=
  ∀ ⦃cs a rest⦄, read cs = some (a, rest) →
    ∃ taken, cs = taken ++ rest ∧ ∀ c ∈ taken, p c = true

namespace Takes

variable {read : Reader α} {f : α × List Char → Option (β × List Char)}

theorem mono (h : Takes p read) (hpq : ∀ c, p c = true → q c = true) : Takes q read := by
  intro cs a rest hread
  obtain ⟨taken, rfl, htaken⟩ := h hread
  exact ⟨taken, rfl, fun c hc => hpq c (htaken c hc)⟩

theorem pure (a : α) : Takes p fun cs => some (a, cs) := by
  intro cs b rest hread
  obtain ⟨-, rfl⟩ := Prod.mk.inj (Option.some.inj hread)
  exact ⟨[], rfl, nofun⟩

theorem bind (h : Takes p read) (hf : ∀ a, Takes p fun cs => f (a, cs)) :
    Takes p fun cs => (read cs).bind f := by
  intro cs b rest hread
  obtain ⟨⟨a, left⟩, hfirst, hsecond⟩ := Option.bind_eq_some_iff.1 hread
  obtain ⟨taken, rfl, htaken⟩ := h hfirst
  obtain ⟨more, rfl, hmore⟩ := hf a hsecond
  refine ⟨taken ++ more, (List.append_assoc ..).symm, ?_⟩
  exact List.forall_mem_append.2 ⟨htaken, hmore⟩

theorem map (h : Takes p read) (g : α → β) :
    Takes p fun cs => (read cs).map fun r => (g r.1, r.2) := by
  intro cs b rest hmap
  obtain ⟨⟨a, left⟩, hread, heq⟩ := Option.map_eq_some_iff.1 hmap
  obtain ⟨-, rfl⟩ := Prod.mk.inj heq
  exact h hread

/-- A mark in front of what is read is taken as well. -/
theorem mark (h : Takes p read) (hk : p k = true) : Takes p fun cs => (char? k cs).bind read := by
  intro cs a rest hread
  obtain ⟨left, hmark, hread⟩ := Option.bind_eq_some_iff.1 hread
  obtain ⟨taken, rfl, htaken⟩ := h hread
  obtain rfl := char?_eq_some_iff.1 hmark
  exact ⟨k :: taken, rfl, List.forall_mem_cons.2 ⟨hk, htaken⟩⟩

end Takes

/-! ### Where reading stops -/

/-- A character ends the reading just as the end of the text does. -/
def Stops (k : Char) (read : Reader α) : Prop :=
  ∀ cs rest, read (cs ++ k :: rest) = (read cs).map fun r => (r.1, r.2 ++ k :: rest)

theorem char?_append {c : Char} (h : k ≠ c) (cs rest : List Char) :
    char? c (cs ++ k :: rest) = (char? c cs).map (· ++ k :: rest) := by
  cases cs with
  | nil => exact if_neg h
  | cons d cs =>
    by_cases hd : d = c
    · simp [char?, hd]
    · simp [char?, hd]

namespace Stops

variable {read : Reader α} {f : α × List Char → Option (β × List Char)}

theorem pure (a : α) : Stops k fun cs => some (a, cs) := fun _ _ => rfl

theorem bind (h : Stops k read) (hf : ∀ a, Stops k fun cs => f (a, cs)) :
    Stops k fun cs => (read cs).bind f := by
  intro cs rest
  dsimp only
  rw [h cs rest]
  cases read cs with
  | none => rfl
  | some r => exact hf r.1 r.2 rest

theorem map (h : Stops k read) (g : α → β) :
    Stops k fun cs => (read cs).map fun r => (g r.1, r.2) := by
  intro cs rest
  dsimp only
  rw [h cs rest, Option.map_map, Option.map_map]
  rfl

theorem mark {c : Char} (h : Stops k read) (hk : k ≠ c) :
    Stops k fun cs => (char? c cs).bind read := by
  intro cs rest
  dsimp only
  rw [char?_append hk]
  cases char? c cs with
  | none => rfl
  | some left => exact h left rest

/-- What is read up to the stop is all that there is without it. -/
theorem eq_some_iff (h : Stops k read) {a : α} :
    read (cs ++ k :: rest) = some (a, k :: rest) ↔ read cs = some (a, []) := by
  rw [h cs rest, Option.map_eq_some_iff]
  constructor
  · rintro ⟨⟨b, left⟩, hread, heq⟩
    obtain ⟨rfl, hleft⟩ := Prod.mk.inj heq
    obtain rfl : left = [] := List.append_left_eq_self.1 hleft
    exact hread
  · intro hread
    exact ⟨(a, []), hread, rfl⟩

end Stops

/-! ### Numbers -/

theorem hexValue?_of_isDigit {c : Char} (h : Ascii.isDigit c = true) :
    Ascii.hexValue? c = some (c.toNat - '0'.toNat) := by
  rw [Ascii.isDigit, Bool.and_eq_true, decide_eq_true_eq, decide_eq_true_eq] at h
  exact if_pos h

/-- A digit is one in base sixteen as well. -/
theorem isDigit_of_isDigit {c : Char} (h : Ascii.isDigit c = true) : isDigit 16 c = true := by
  rw [isDigit, if_pos rfl, hexValue?_of_isDigit h]
  rfl

theorem takes_number (base : Nat) (most : Option Nat) (zeros : Bool) (greatest : Nat) :
    Takes (isDigit base) (number? base most zeros greatest) := by
  intro cs n rest hread
  obtain ⟨-, hread⟩ := Option.ite_none_left_eq_some.1 hread
  obtain ⟨-, hread⟩ := Option.ite_none_right_eq_some.1 hread
  obtain ⟨-, rfl⟩ := Prod.mk.inj (Option.some.inj hread)
  exact ⟨cs.takeWhile (isDigit base), List.takeWhile_append_dropWhile.symm,
    fun c hc => List.mem_takeWhile_imp hc⟩

theorem stops_number {base : Nat} (hk : isDigit base k = false) (most : Option Nat) (zeros : Bool)
    (greatest : Nat) : Stops k (number? base most zeros greatest) := by
  intro cs rest
  -- the digits end at the mark at the latest
  have htake : (cs ++ k :: rest).takeWhile (isDigit base) = cs.takeWhile (isDigit base) := by
    rw [List.takeWhile_append, List.takeWhile_cons_of_neg (Bool.eq_false_iff.1 hk),
      List.append_nil]
    split
    · next hall => exact ((List.takeWhile_prefix _).eq_of_length hall).symm
    · rfl
  have hdrop : (cs ++ k :: rest).dropWhile (isDigit base) =
      cs.dropWhile (isDigit base) ++ k :: rest := by
    rw [List.dropWhile_append]
    split
    · next hnone =>
      rw [List.isEmpty_iff.1 hnone, List.dropWhile_cons_of_neg (Bool.eq_false_iff.1 hk)]
      rfl
    · rfl
  -- the number depends on the digits alone, and what is left is left in front of the mark
  unfold number?
  rw [htake, hdrop]
  dsimp only
  split
  · rfl
  · split <;> rfl

/-- The digits of a number write it. -/
theorem value_toDigits (n : Nat) : value 10 (Nat.toDigits 10 n) = n := by
  have hdecimal := Ascii.decimal?_toDigits n
  obtain ⟨-, hfold⟩ := Option.ite_none_left_eq_some.1 hdecimal
  calc value 10 (Nat.toDigits 10 n)
    _ = (Nat.toDigits 10 n).foldl (fun m c => m * 10 + (c.toNat - '0'.toNat)) 0 := by
      refine List.foldl_ext _ _ 0 fun m c hc => ?_
      rw [hexValue?_of_isDigit (Ascii.isDigit_of_mem_toDigits hc), Option.getD_some]
    _ = n := Option.some.inj hfold

theorem number?_toDigits {n greatest : Nat} (h : n ≤ greatest) :
    number? 10 none true greatest (Nat.toDigits 10 n) = some (n, []) := by
  have hdigits : ∀ c ∈ Nat.toDigits 10 n, isDigit 10 c = true := fun c hc =>
    Ascii.isDigit_of_mem_toDigits hc
  have htake : (Nat.toDigits 10 n).takeWhile (isDigit 10) = Nat.toDigits 10 n :=
    List.takeWhile_eq_self_iff.2 hdigits
  have hdrop : (Nat.toDigits 10 n).dropWhile (isDigit 10) = [] :=
    List.dropWhile_eq_nil_iff.2 hdigits
  have hempty : (Nat.toDigits 10 n).isEmpty = false :=
    List.isEmpty_eq_false_iff.2 Nat.toDigits_ne_nil
  rw [number?, htake, hdrop, hempty, value_toDigits]
  exact if_pos h

/-! ### IPv4 -/

/-- A character of an IPv4 address. -/
def isDotted (c : Char) : Bool := Ascii.isDigit c || c == '.'

theorem takes_octet : Takes isDotted octet? := by
  refine ((takes_number 10 (some 3) false 255).map UInt8.ofNat).mono fun c hc => ?_
  rw [isDotted, Bool.or_eq_true]
  exact .inl hc

theorem takes_ipv4 : Takes isDotted ipv4? :=
  takes_octet.bind fun a => Takes.mark
    (takes_octet.bind fun b => Takes.mark
      (takes_octet.bind fun c => Takes.mark
        (takes_octet.bind fun d => Takes.pure (Ipv4.mk a b c d)) rfl) rfl) rfl

theorem stops_decimal (hk : Ascii.isDigit k = false) (most : Option Nat) (zeros : Bool)
    (greatest : Nat) : Stops k (number? 10 most zeros greatest) :=
  stops_number (show isDigit 10 k = false from hk) most zeros greatest

theorem stops_octet (hk : Ascii.isDigit k = false) : Stops k octet? :=
  Stops.map (stops_decimal hk (some 3) false 255) UInt8.ofNat

theorem stops_ipv4 (hk : isDotted k = false) : Stops k ipv4? := by
  rw [isDotted, Bool.or_eq_false_iff, beq_eq_false_iff_ne] at hk
  obtain ⟨hdigit, hdot⟩ := hk
  have hoctet := stops_octet hdigit
  exact hoctet.bind fun a => Stops.mark
    (hoctet.bind fun b => Stops.mark
      (hoctet.bind fun c => Stops.mark
        (hoctet.bind fun d => Stops.pure (Ipv4.mk a b c d)) hdot) hdot) hdot

/-! ### Groups -/

/-- A character of an IPv6 address. -/
def isPart (c : Char) : Bool := isDigit 16 c || c == '.' || c == ':'

theorem isPart_of_isDotted {c : Char} (h : isDotted c = true) : isPart c = true := by
  rw [isDotted, Bool.or_eq_true] at h
  rw [isPart, Bool.or_eq_true, Bool.or_eq_true]
  exact .inl (h.imp_left isDigit_of_isDigit)

theorem not_isDotted_of_not_isPart (h : isPart k = false) : isDotted k = false := by
  rw [← Bool.not_eq_true] at h ⊢
  exact mt isPart_of_isDotted h

theorem takes_group : Takes isPart group? := by
  refine ((takes_number 16 (some 4) true 65535).map UInt16.ofNat).mono fun c hc => ?_
  rw [isPart, Bool.or_eq_true, Bool.or_eq_true]
  exact .inl (.inl hc)

theorem stops_group (hk : isPart k = false) : Stops k group? := by
  rw [isPart, Bool.or_eq_false_iff, Bool.or_eq_false_iff] at hk
  exact Stops.map (stops_number hk.1.1 (some 4) true 65535) UInt16.ofNat

/-- Every group but the first has a colon in front of it. -/
theorem exists_of_separator? {first : Bool} {left : List Char}
    (h : separator? first cs = some left) :
    ∃ mark, cs = mark ++ left ∧ (∀ c ∈ mark, isPart c = true) ∧
      1 ≤ mark.count ':' + first.toNat := by
  cases first with
  | true =>
    obtain rfl : cs = left := Option.some.inj h
    exact ⟨[], rfl, nofun, Nat.le_refl 1⟩
  | false =>
    obtain rfl := char?_eq_some_iff.1 h
    exact ⟨[':'], rfl, by simp [isPart], Nat.le_refl 1⟩

/-- So it takes one with it. -/
theorem Takes.separated {read : Reader α} (h : Takes isPart read) {first : Bool} {a : α}
    (hfound : (separator? first cs).bind read = some (a, rest)) :
    ∃ taken, cs = taken ++ rest ∧ (∀ c ∈ taken, isPart c = true) ∧
      1 ≤ taken.count ':' + first.toNat := by
  obtain ⟨left, hseparator, hread⟩ := Option.bind_eq_some_iff.1 hfound
  obtain ⟨mark, rfl, hmark, hcolon⟩ := exists_of_separator? hseparator
  obtain ⟨taken, rfl, htaken⟩ := h hread
  refine ⟨mark ++ taken, (List.append_assoc ..).symm, ?_, ?_⟩
  · exact List.forall_mem_append.2 ⟨hmark, htaken⟩
  · rw [List.count_append]
    omega

theorem Stops.separated {read : Reader α} (h : Stops k read) (hk : isPart k = false)
    (first : Bool) : Stops k fun cs => (separator? first cs).bind read := by
  cases first with
  | true => exact h
  | false =>
    refine Stops.mark h ?_
    rintro rfl
    exact absurd hk (by simp [isPart])

/-- The groups that are taken have almost as many colons: the first has none in front of it, and
an IPv4 address stands for two groups. -/
theorem exists_of_groups {left : Nat} {first : Bool} {gs : List UInt16} {embedded : Bool}
    (h : groups left first cs = (gs, embedded, rest)) :
    ∃ taken, cs = taken ++ rest ∧ (∀ c ∈ taken, isPart c = true) ∧
      gs.length ≤ taken.count ':' + first.toNat + embedded.toNat := by
  induction left generalizing first cs gs with
  | zero =>
    cases h
    exact ⟨[], rfl, nofun, Nat.zero_le _⟩
  | succ left ih =>
    unfold groups at h
    split at h
    · next x after hfound =>
      -- the address ends the groups
      obtain ⟨-, hfound⟩ := Option.ite_none_right_eq_some.1 hfound
      have htakes : Takes isPart ipv4? := takes_ipv4.mono fun c => isPart_of_isDotted
      obtain ⟨taken, rfl, htaken, hcolon⟩ := htakes.separated hfound
      cases h
      refine ⟨taken, rfl, htaken, ?_⟩
      show 2 ≤ taken.count ':' + first.toNat + 1
      omega
    · split at h
      · next g after hfound =>
        obtain ⟨taken, rfl, htaken, hcolon⟩ := takes_group.separated hfound
        obtain ⟨gs', embedded', left', hgroups⟩ : ∃ gs' embedded' left',
            groups left false after = (gs', embedded', left') := ⟨_, _, _, rfl⟩
        rw [hgroups] at h
        cases h
        -- a group costs one colon, but for the first of all
        obtain ⟨more, rfl, hmore, hlength⟩ := ih hgroups
        refine ⟨taken ++ more, (List.append_assoc ..).symm, ?_, ?_⟩
        · exact List.forall_mem_append.2 ⟨htaken, hmore⟩
        · have hfalse : Bool.toNat false = 0 := rfl
          rw [List.length_cons, List.count_append]
          omega
      · cases h
        exact ⟨[], rfl, nofun, Nat.zero_le _⟩

theorem groups_append (hk : isPart k = false) (left : Nat) (first : Bool) (cs rest : List Char) :
    groups left first (cs ++ k :: rest) =
      ((groups left first cs).1, (groups left first cs).2.1,
        (groups left first cs).2.2 ++ k :: rest) := by
  -- the induction is on the number of groups that there is room for
  induction left generalizing first cs with
  | zero => rfl
  | succ left ih =>
    have hgroup := (stops_group hk).separated hk first cs rest
    dsimp only at hgroup
    -- an address with dots takes the room of two groups
    have hembedded :
        (if 1 ≤ left then (separator? first (cs ++ k :: rest)).bind ipv4? else none) =
          (if 1 ≤ left then (separator? first cs).bind ipv4? else none).map
            fun r => (r.1, r.2 ++ k :: rest) := by
      split
      · exact (stops_ipv4 (not_isDotted_of_not_isPart hk)).separated hk first cs rest
      · rfl
    unfold groups
    rw [hembedded, hgroup]
    cases if 1 ≤ left then (separator? first cs).bind ipv4? else none with
    | some r => rfl
    | none =>
      cases (separator? first cs).bind group? with
      | none => rfl
      | some r =>
        dsimp only [Option.map_none, Option.map_some]
        rw [ih]

/-! ### IPv6 -/

theorem stops_ipv6 (hk : isPart k = false) : Stops k ipv6? := by
  have hcolon : k ≠ ':' := by
    rintro rfl
    exact absurd hk (by simp [isPart])
  -- what stands behind two colons is read up to the same mark, into the room that is left
  have hback : ∀ front : List UInt16, Stops k fun cs =>
      some (ofEnds front (groups (7 - front.length) true cs).1,
        (groups (7 - front.length) true cs).2.2) := by
    intro front cs rest
    dsimp only
    rw [groups_append hk]
    rfl
  intro cs rest
  unfold ipv6?
  rw [groups_append hk]
  -- what is done next depends on the groups that were read and not on what follows the mark
  generalize groups 8 true cs = read
  obtain ⟨front, embedded, left⟩ := read
  dsimp only
  split
  · rfl
  · split
    · rfl
    · exact Stops.mark (Stops.mark (hback front) hcolon) hcolon left rest

/-- An IPv6 address has no brackets, and two colons at least. -/
theorem exists_of_ipv6? {a : Ipv6} (h : ipv6? cs = some (a, rest)) :
    ∃ taken, cs = taken ++ rest ∧ (∀ c ∈ taken, isPart c = true) ∧ 2 ≤ taken.count ':' := by
  obtain ⟨front, embedded, left, hfront⟩ : ∃ front embedded left,
      groups 8 true cs = (front, embedded, left) := ⟨_, _, _, rfl⟩
  obtain ⟨taken, rfl, htaken, hlength⟩ := exists_of_groups hfront
  unfold ipv6? at h
  rw [hfront] at h
  dsimp only at h
  split at h
  · next hall =>
    cases h
    -- eight groups, or six and an embedded address, have more than two colons
    refine ⟨taken, rfl, htaken, ?_⟩
    have hone : embedded.toNat ≤ 1 := Bool.toNat_le embedded
    have htrue : Bool.toNat true = 1 := rfl
    omega
  · split at h
    · cases h
    · -- the two colons that stand for groups are read
      obtain ⟨left, hfirst, hread⟩ := Option.bind_eq_some_iff.1 h
      obtain ⟨left', hsecond, hread'⟩ := Option.bind_eq_some_iff.1 hread
      obtain rfl := char?_eq_some_iff.1 hfirst
      obtain rfl := char?_eq_some_iff.1 hsecond
      obtain ⟨back, embedded', last, hback⟩ : ∃ back embedded' last,
          groups (7 - front.length) true left' = (back, embedded', last) := ⟨_, _, _, rfl⟩
      rw [hback] at hread'
      cases hread'
      obtain ⟨more, rfl, hmore, -⟩ := exists_of_groups hback
      refine ⟨taken ++ ':' :: ':' :: more, by simp, ?_, ?_⟩
      · have hcolon : isPart ':' = true := by simp [isPart]
        exact List.forall_mem_append.2 ⟨htaken,
          List.forall_mem_cons.2 ⟨hcolon, List.forall_mem_cons.2 ⟨hcolon, hmore⟩⟩⟩
      · rw [List.count_append, List.count_cons_self, List.count_cons_self]
        omega

/-! ### Whole texts -/

theorem whole_eq_some_iff {read : Option (α × List Char)} {a : α} :
    whole read = some a ↔ read = some (a, []) := by
  unfold whole
  split
  · simp
  · next hnot => exact iff_of_false nofun fun h => hnot a h

end Address

namespace IpAddress

open Address

variable {s : String}

/-- The text of an IPv4 address has no colon. -/
theorem not_mem_of_ipv4? {cs : List Char} {a : Ipv4} (h : ipv4? cs = some (a, [])) :
    ':' ∉ cs := by
  obtain ⟨taken, rfl, htaken⟩ := takes_ipv4 h
  rw [List.append_nil]
  intro hcolon
  exact absurd (htaken ':' hcolon) (by simp [isDotted, Ascii.isDigit])

theorem parse?_eq_v4_iff {a : Ipv4} :
    parse? s = some (.v4 a) ↔ ipv4? s.toList = some (a, []) := by
  rw [← whole_eq_some_iff, parse?]
  cases whole (ipv4? s.toList) with
  | some b => simp
  | none => simp

/-- No text is an address of both kinds, so it does not matter which is tried first. -/
theorem parse?_eq_v6_iff {a : Ipv6} :
    parse? s = some (.v6 a) ↔ ipv6? s.toList = some (a, []) := by
  rw [← whole_eq_some_iff, parse?]
  cases hv4 : whole (ipv4? s.toList) with
  | none => simp
  | some b =>
    refine iff_of_false (by simp) fun hv6 => ?_
    have hnone := not_mem_of_ipv4? (whole_eq_some_iff.1 hv4)
    obtain ⟨taken, htext, -, hcount⟩ := exists_of_ipv6? (whole_eq_some_iff.1 hv6)
    rw [List.append_nil] at htext
    rw [htext, ← List.count_eq_zero] at hnone
    omega

/-- The text of an IPv6 address holds no bracket, and has two colons at least. -/
theorem text_of_v6 {a : Ipv6} (h : parse? s = some (.v6 a)) :
    (∀ c ∈ s.toList, isPart c = true) ∧ 2 ≤ s.toList.count ':' := by
  obtain ⟨taken, htext, htaken, hcount⟩ := exists_of_ipv6? (parse?_eq_v6_iff.1 h)
  rw [List.append_nil] at htext
  rw [htext]
  exact ⟨htaken, hcount⟩

end IpAddress

end ReplayProxy
