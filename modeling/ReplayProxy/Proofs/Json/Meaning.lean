import Mathlib.Algebra.Field.Rat
import Mathlib.Data.List.Forall2
import ReplayProxy.Proofs.Fallible
import ReplayProxy.Proofs.Json.Grammar
import ReplayProxy.Proofs.Json.Members

/-!
# What texts mean

A text of JSON means something without regard to the way in which a program holds it
(`Meaning`): a number is the rational number that is written, and an object is a function from
names to what stands under them last. `Document.Denotes` says what a text means, by way of the
tree that it writes.

A value that was read from a text is the only one with its meaning, provided that its numbers are
integers: it is *normal* (`Value.Normal`), which fixes the order of members, and among normal values
the meaning is injective (`Value.meaning_injective`). For the same reason what is written for such a
value is read back as the value (`Value.parse_bytes`).

Main statements:

* `Value.denotes_of_parse`: a text that is read means what the value means that is read from it.
* `Value.meaning_injective`: normal values with integers only are the same if they mean the same.
-/

namespace ReplayProxy

/-- The number that a double stands for. -/
def Binary64.exact (x : Binary64) : ℚ :=
  (if x.negative then -1 else 1) * x.magnitude.significand * 2 ^ x.magnitude.exponent

namespace Json

/-! ### Numbers -/

namespace Numeral

/-- The exponent of ten that is written. -/
def exactExponent (x : Numeral) : ℤ :=
  match x.exponent with
  | none => 0
  | some (minus, digits) => if minus then -(foldDigits 0 digits : ℤ) else foldDigits 0 digits

/-- The number that is written. -/
def exact (x : Numeral) : ℚ :=
  (if x.negative then -1 else 1) * (foldDigits 0 (x.whole ++ x.fraction) : ℚ) *
    10 ^ (x.exactExponent - x.fraction.length)

/-- Digits that are all collected fit into sixty-four bits. -/
theorem of_collect_eq {m n : Nat} {ds : List Nat} (hm : m ≤ wordMax)
    (h : collect m ds = (n, [])) : n = foldDigits m ds ∧ n ≤ wordMax := by
  induction ds generalizing m with
  | nil =>
    cases h
    exact ⟨rfl, hm⟩
  | cons d ds ih =>
    rw [collect] at h
    split at h
    · next hd => exact ih hd h
    · cases h

theorem real?_ne_int (x : Numeral) (n : Nat) (e i : Int) : x.real? n e ≠ some (.int i) := by
  -- every way to read a real number ends in a magnitude, which makes it a double
  have hbind : ∀ m : Option Magnitude,
      (m.bind fun magnitude => some (Number.real ⟨x.negative, magnitude⟩)) ≠ some (.int i) := by
    rintro (_ | magnitude) h <;> cases h
  rw [real?]
  split
  · exact hbind _
  · split
    · exact hbind _
    · split
      · exact hbind (some _)
      · exact hbind none

/-- A numeral that is read as an integer is written without a fraction and without an exponent,
and the integer is the number that is written. -/
theorem of_value?_eq_int {x : Numeral} {i : Int} (h : x.value? = some (.int i)) :
    x.exact = i ∧ -9223372036854775808 ≤ i ∧ i ≤ wordMax := by
  rw [value?] at h
  split at h
  · next n hcollect =>
    obtain ⟨hn, hmax⟩ := of_collect_eq (by decide) hcollect
    -- what has a fraction or an exponent is read as a real number
    by_cases hfraction : x.fraction.isEmpty = true
    · rw [if_pos hfraction] at h
      by_cases hexponent : x.exponent.isSome = true
      · rw [if_pos hexponent] at h
        exact absurd h (x.real?_ne_int _ _ _)
      · rw [if_neg hexponent] at h
        have hnone : x.exponent = none := by simpa using hexponent
        have hexact : x.exact = (if x.negative then -1 else 1) * (n : ℚ) := by
          rw [exact, exactExponent, hnone, List.isEmpty_iff.1 hfraction, List.append_nil, hn]
          simp
        -- without a minus sign every such number fits, and with one it may be too great
        cases hsign : x.negative with
        | false =>
          simp only [hsign, Bool.not_false, if_true, Option.some.injEq, Number.int.injEq] at h
          subst h
          rw [hexact, hsign]
          exact ⟨by simp, by omega, by omega⟩
        | true =>
          simp only [hsign, Bool.not_true, Bool.false_eq_true, if_false] at h
          split at h
          · next hrange =>
            cases h
            rw [hexact, hsign]
            exact ⟨by simp, by omega, by omega⟩
          · exact absurd h (x.real?_ne_int _ _ _)
    · rw [if_neg hfraction] at h
      exact absurd h (x.real?_ne_int _ _ _)
  · exact absurd h (x.real?_ne_int _ _ _)

end Numeral

namespace Number

/-- The number that is meant. -/
def exact : Number → ℚ
  | .int i => i
  | .real x => x.exact

end Number

/-! ### Meanings -/

/-- What a text of JSON means. An object is known by what stands under each name. -/
inductive Meaning where
  | null
  | boolean (value : Bool)
  | number (value : ℚ)
  | string (text : String)
  | array (items : List Meaning)
  | object (members : String → Option Meaning)

namespace Tree

mutual

/-- What a tree means; `none` if a string in it cannot be used. The last member of a name wins. -/
def meaning? : Tree → Option Meaning
  | .null => some .null
  | .boolean b => some (.boolean b)
  | .number n => some (.number n.exact)
  | .string text => text.map .string
  | .array items _ => (itemMeanings? items).map .array
  | .object members _ =>
    (memberMeanings? members).map fun ms => .object fun name => ms.reverse.lookup name
  | .cut => none

/-- What elements mean. -/
def itemMeanings? : List Tree → Option (List Meaning)
  | [] => some []
  | t :: rest => do return (← t.meaning?) :: (← itemMeanings? rest)

/-- What members mean. -/
def memberMeanings? : List (Option String × Tree) → Option (List (String × Meaning))
  | [] => some []
  | (name, t) :: rest => do return (← name, ← t.meaning?) :: (← memberMeanings? rest)

end

end Tree

/-- The text is a text of JSON and means this. -/
def Document.Denotes (s : Bytes) (m : Meaning) : Prop :=
  ∃ t, Writes s t ∧ t.meaning? = some m

/-- A text means one thing at most. -/
theorem Document.Denotes.unique {s : Bytes} {m m' : Meaning} (h : Denotes s m)
    (h' : Denotes s m') : m = m' := by
  obtain ⟨t, ht, hm⟩ := h
  obtain ⟨t', ht', hm'⟩ := h'
  rw [ht.unique ht', hm'] at hm
  exact (Option.some.inj hm).symm

namespace Value

mutual

/-- What a value means. -/
def meaning : Value → Meaning
  | .null => .null
  | .boolean b => .boolean b
  | .number n => .number n.exact
  | .string s => .string s
  | .array items => .array (itemMeanings items)
  | .object members => .object fun name => (memberMeanings members).lookup name

/-- What elements mean. -/
def itemMeanings : List Value → List Meaning
  | [] => []
  | v :: rest => v.meaning :: itemMeanings rest

/-- What members mean. -/
def memberMeanings : List (String × Value) → List (String × Meaning)
  | [] => []
  | (name, v) :: rest => (name, v.meaning) :: memberMeanings rest

end

/-! ### What is read of a tree -/

section Reading

variable {depth : Nat} {v : Value}

theorem ofTree_number_eq_ok {x : Numeral} (h : ofTree depth (.number x) = .ok v) :
    ∃ n, x.value? = some n ∧ v = .number n := by
  rw [ofTree] at h
  split at h
  · next n hvalue =>
    cases h
    exact ⟨n, hvalue, rfl⟩
  · cases h

/-- An array is read if it is closed, not too deep, and all of its elements are read. -/
theorem ofTree_array_eq_ok_iff {items : List Tree} {closed : Bool} :
    ofTree depth (.array items closed) = .ok v ↔
      ∃ d vs, depth = d + 1 ∧ closed = true ∧ ofItems d items = .ok vs ∧ v = .array vs := by
  constructor
  · intro h
    -- without depth left nothing is read, and a cut array is refused after its elements
    cases depth with
    | zero => cases h
    | succ d =>
      obtain ⟨vs, hvs, h⟩ := bind_eq_ok_iff.1 h
      cases closed with
      | false => cases h
      | true => exact ⟨d, vs, rfl, rfl, hvs, (Except.ok.inj h).symm⟩
  · rintro ⟨d, vs, rfl, rfl, hvs, rfl⟩
    exact bind_eq_ok_iff.2 ⟨vs, hvs, rfl⟩

/-- So is an object, and then its members are sorted. -/
theorem ofTree_object_eq_ok_iff {members : List (Option String × Tree)} {closed : Bool} :
    ofTree depth (.object members closed) = .ok v ↔
      ∃ d ms, depth = d + 1 ∧ closed = true ∧ ofMembers d members = .ok ms ∧
        v = .object (sortMembers ms) := by
  constructor
  · intro h
    cases depth with
    | zero => cases h
    | succ d =>
      obtain ⟨ms, hms, h⟩ := bind_eq_ok_iff.1 h
      cases closed with
      | false => cases h
      | true => exact ⟨d, ms, rfl, rfl, hms, (Except.ok.inj h).symm⟩
  · rintro ⟨d, ms, rfl, rfl, hms, rfl⟩
    exact bind_eq_ok_iff.2 ⟨ms, hms, rfl⟩

theorem ofItems_cons_eq_ok_iff {t : Tree} {ts : List Tree} {vs : List Value} :
    ofItems depth (t :: ts) = .ok vs ↔
      ∃ v ws, ofTree depth t = .ok v ∧ ofItems depth ts = .ok ws ∧ vs = v :: ws :=
  bind_bind_eq_ok_iff

theorem ofMembers_cons_eq_ok_iff {name : String} {t : Tree} {ts : List (Option String × Tree)}
    {ms : List (String × Value)} :
    ofMembers depth ((some name, t) :: ts) = .ok ms ↔
      ∃ v ws, ofTree depth t = .ok v ∧ ofMembers depth ts = .ok ws ∧ ms = (name, v) :: ws :=
  bind_bind_eq_ok_iff

end Reading

/-! ### Normal values -/

mutual

/-- The value nests at most `depth` deep, its integers fit into sixty-four bits, and the members of
its objects are sorted. -/
def Normal (depth : Nat) : Value → Prop
  | .number (.int i) => -9223372036854775808 ≤ i ∧ i ≤ Numeral.wordMax
  | .array items =>
    match depth with
    | 0 => False
    | d + 1 => NormalItems d items
  | .object members =>
    match depth with
    | 0 => False
    | d + 1 => Sorted members ∧ NormalMembers d members
  | _ => True

/-- The elements are normal. -/
def NormalItems (depth : Nat) : List Value → Prop
  | [] => True
  | v :: rest => v.Normal depth ∧ NormalItems depth rest

/-- The values of the members are normal. -/
def NormalMembers (depth : Nat) : List (String × Value) → Prop
  | [] => True
  | (_, v) :: rest => v.Normal depth ∧ NormalMembers depth rest

end

theorem normalMembers_iff {depth : Nat} {ms : List (String × Value)} :
    NormalMembers depth ms ↔ ∀ m ∈ ms, m.2.Normal depth := by
  induction ms with
  | nil => simp [NormalMembers]
  | cons m ms ih => simp [NormalMembers, ih]

-- The lemmas on the reader follow its recursion over trees, elements and members.
mutual

/-- A value that is read is normal. -/
theorem normal_of_ofTree {depth : Nat} (t : Tree) {v : Value} (h : ofTree depth t = .ok v) :
    v.Normal depth := by
  match t with
  | .null => cases h; trivial
  | .boolean b => cases h; trivial
  | .number x =>
    obtain ⟨n, hvalue, rfl⟩ := ofTree_number_eq_ok h
    cases n with
    | int i => exact (Numeral.of_value?_eq_int hvalue).2
    | real y => trivial
  | .string (some s) => cases h; trivial
  | .string none => cases h
  | .cut => cases h
  | .array items closed =>
    obtain ⟨depth, vs, rfl, -, hvs, rfl⟩ := ofTree_array_eq_ok_iff.1 h
    exact normal_of_ofItems items hvs
  | .object members closed =>
    obtain ⟨depth, ms, rfl, -, hms, rfl⟩ := ofTree_object_eq_ok_iff.1 h
    -- sorting puts the names in order, and every value was normal before
    refine ⟨sorted_sortMembers ms, normalMembers_iff.2 fun m hm => ?_⟩
    exact normalMembers_iff.1 (normal_of_ofMembers members hms) m (mem_sortMembers hm)

/-- Elements that are read are normal. -/
theorem normal_of_ofItems {depth : Nat} (ts : List Tree) {vs : List Value}
    (h : ofItems depth ts = .ok vs) : NormalItems depth vs := by
  match ts with
  | [] => cases h; trivial
  | t :: ts =>
    obtain ⟨v, vs, hv, hvs, rfl⟩ := ofItems_cons_eq_ok_iff.1 h
    exact ⟨normal_of_ofTree t hv, normal_of_ofItems ts hvs⟩

/-- Members that are read have normal values. -/
theorem normal_of_ofMembers {depth : Nat} (ms : List (Option String × Tree))
    {vs : List (String × Value)} (h : ofMembers depth ms = .ok vs) : NormalMembers depth vs := by
  match ms with
  | [] => cases h; trivial
  | (none, _) :: _ => cases h
  | (some name, t) :: ms =>
    obtain ⟨v, vs, hv, hvs, rfl⟩ := ofMembers_cons_eq_ok_iff.1 h
    exact ⟨normal_of_ofTree t hv, normal_of_ofMembers ms hvs⟩

end

-- The converse for what is written follows the recursion of the value.
mutual

/-- A normal value is read from its tree. -/
theorem ofTree_tree {depth : Nat} (v : Value) (hwhole : v.Whole) (h : v.Normal depth) :
    ofTree depth v.tree = .ok v := by
  match v with
  | .null | .boolean _ | .string _ => rfl
  | .number (.int i) => rw [tree, ofTree, Numeral.value?_ofInt h.1 h.2]
  | .number (.real x) => exact hwhole.elim
  | .array items =>
    cases depth with
    | zero => exact h.elim
    | succ depth => rw [tree, ofTree, ofItems_itemTrees items hwhole h]; rfl
  | .object members =>
    cases depth with
    | zero => exact h.elim
    | succ depth =>
      rw [tree, ofTree, ofMembers_memberTrees members hwhole h.2, ok_bind, if_pos rfl,
        sortMembers_of_sorted h.1]

theorem ofItems_itemTrees {depth : Nat} (vs : List Value) (hwhole : WholeItems vs)
    (h : NormalItems depth vs) : ofItems depth (itemTrees vs) = .ok vs := by
  match vs with
  | [] => rfl
  | v :: vs =>
    rw [itemTrees, ofItems, ofTree_tree v hwhole.1 h.1, ok_bind,
      ofItems_itemTrees vs hwhole.2 h.2, ok_bind]

theorem ofMembers_memberTrees {depth : Nat} (ms : List (String × Value))
    (hwhole : WholeMembers ms) (h : NormalMembers depth ms) :
    ofMembers depth (memberTrees ms) = .ok ms := by
  match ms with
  | [] => rfl
  | (name, v) :: ms =>
    rw [memberTrees, ofMembers, ofTree_tree v hwhole.1 h.1, ok_bind,
      ofMembers_memberTrees ms hwhole.2 h.2, ok_bind]

end

theorem parse_eq_ok_iff {s : Bytes} {v : Value} :
    parse s = .ok v ↔ ∃ t, Document.Writes s t ∧ ofTree depthLimit t = .ok v := by
  -- a text is parsed if it ends where its tree ends and the tree is a value
  have hparse : parse s = .ok v ↔
      (Document.read s).ended = true ∧ ofTree depthLimit (Document.read s).root = .ok v := by
    rw [parse, decode]
    cases ofTree depthLimit (Document.read s).root with
    | error e => simp
    | ok w => cases (Document.read s).ended <;> simp
  rw [hparse]
  constructor
  · rintro ⟨hended, hvalue⟩
    exact ⟨_, Document.read_eq_iff_writes.1 (congrArg (Document.mk _) hended), hvalue⟩
  · rintro ⟨t, ht, hvalue⟩
    rw [Document.read_eq_iff_writes.2 ht]
    exact ⟨rfl, hvalue⟩

theorem normal_of_parse {s : Bytes} {v : Value} (h : parse s = .ok v) : v.Normal depthLimit := by
  obtain ⟨t, -, ht⟩ := parse_eq_ok_iff.1 h
  exact normal_of_ofTree t ht

/-- **What is written is read back**, if the value was read from a text itself and its numbers are
integers. -/
theorem parse_bytes {s : Bytes} {v : Value} (h : parse s = .ok v) (hwhole : v.Whole) :
    parse v.bytes = .ok v := by
  rw [parse, decode_bytes _ hwhole]
  exact ofTree_tree v hwhole (normal_of_parse h)

/-! ### What is read has the meaning of the text -/

theorem memberMeanings_eq_map (ms : List (String × Value)) :
    memberMeanings ms = ms.map fun m => (m.1, m.2.meaning) := by
  induction ms with
  | nil => rfl
  | cons m ms ih => rw [memberMeanings, ih, List.map_cons]

theorem lookup_memberMeanings (ms : List (String × Value)) (name : String) :
    (memberMeanings ms).lookup name = (ms.lookup name).map meaning := by
  induction ms with
  | nil => rfl
  | cons m ms ih =>
    obtain ⟨n, v⟩ := m
    rw [memberMeanings]
    by_cases hname : name = n
    · rw [hname, List.lookup_cons_self, List.lookup_cons_self, Option.map_some]
    · rw [lookup_cons_of_ne hname, lookup_cons_of_ne hname, ih]

theorem sorted_memberMeanings {ms : List (String × Value)} (h : Sorted ms) :
    Sorted (memberMeanings ms) := by
  rw [memberMeanings_eq_map]
  exact List.pairwise_map.2 h

/-- What is found in one of two lists corresponds to what is found in the other. -/
theorem lookup_of_forall₂ {α β : Type} {R : α → β → Prop} {xs : List (String × α)}
    {ys : List (String × β)} (h : List.Forall₂ (fun x y => x.1 = y.1 ∧ R x.2 y.2) xs ys)
    (name : String) : Option.Rel R (xs.lookup name) (ys.lookup name) := by
  -- both lists have the same names at the same places, so the look-ups stop together
  induction h with
  | nil => exact .none
  | @cons x y xs ys hxy _ ih =>
    obtain ⟨n, v⟩ := x
    obtain ⟨n', w⟩ := y
    obtain ⟨rfl, hvw⟩ := hxy
    by_cases hname : name = n
    · rw [hname, List.lookup_cons_self, List.lookup_cons_self]
      exact .some hvw
    · rw [lookup_cons_of_ne hname, lookup_cons_of_ne hname]
      exact ih

/-- The value means this, as far as its numbers are integers. Other numbers are rounded. -/
def Means (v : Value) (m : Meaning) : Prop := v.Whole → v.meaning = m

/-- The values under the names mean what is written last under them. -/
theorem means_object {vs : List (String × Value)} {ms : List (String × Meaning)}
    (h : List.Forall₂ (fun v m => v.1 = m.1 ∧ v.2.Means m.2) vs ms) :
    (object (sortMembers vs)).Means (.object fun name => ms.reverse.lookup name) := by
  intro hwhole
  rw [meaning]
  congr 1
  funext name
  -- the last member of a name wins in the text, and in the value it is the one that stays
  have hrel := lookup_of_forall₂ (List.forall₂_reverse_iff.2 h) name
  rw [lookup_memberMeanings]
  -- only the values that have stayed need to be whole
  have hstays : ∀ v, vs.reverse.lookup name = some v → v.Whole := by
    intro v hv
    rw [← lookup_sortMembers] at hv
    exact wholeMembers_iff.1 hwhole _ (mem_of_lookup hv)
  rw [lookup_sortMembers]
  revert hrel hstays
  generalize vs.reverse.lookup name = found, ms.reverse.lookup name = meant
  rintro (hmeans | _) hstays
  · rw [Option.map_some, hmeans (hstays _ rfl)]
  · rfl

mutual

/-- The value of a tree means what the tree means. -/
theorem means_of_ofTree {depth : Nat} (t : Tree) {v : Value} (h : ofTree depth t = .ok v) :
    ∃ m, t.meaning? = some m ∧ v.Means m := by
  match t with
  | .null => cases h; exact ⟨_, rfl, fun _ => rfl⟩
  | .boolean b => cases h; exact ⟨_, rfl, fun _ => rfl⟩
  | .number x =>
    obtain ⟨n, hvalue, rfl⟩ := ofTree_number_eq_ok h
    -- an integer is the number that is written, and nothing is said of real numbers
    refine ⟨_, rfl, fun hwhole => ?_⟩
    cases n with
    | int i => rw [meaning, Number.exact, (Numeral.of_value?_eq_int hvalue).1]
    | real y => exact hwhole.elim
  | .string (some s) => cases h; exact ⟨_, rfl, fun _ => rfl⟩
  | .string none => cases h
  | .cut => cases h
  | .array items closed =>
    obtain ⟨depth, vs, rfl, -, hvs, rfl⟩ := ofTree_array_eq_ok_iff.1 h
    -- elements mean something one by one
    obtain ⟨ms, hms, hmeans⟩ := means_of_ofItems items hvs
    refine ⟨.array ms, by rw [Tree.meaning?, hms]; rfl, fun hwhole => ?_⟩
    rw [meaning, hmeans hwhole]
  | .object members closed =>
    obtain ⟨depth, vs, rfl, -, hvs, rfl⟩ := ofTree_object_eq_ok_iff.1 h
    obtain ⟨ms, hms, hmeans⟩ := means_of_ofMembers members hvs
    exact ⟨_, by rw [Tree.meaning?, hms]; rfl, means_object hmeans⟩

/-- The values of elements mean what the elements mean. -/
theorem means_of_ofItems {depth : Nat} (ts : List Tree) {vs : List Value}
    (h : ofItems depth ts = .ok vs) :
    ∃ ms, Tree.itemMeanings? ts = some ms ∧ (WholeItems vs → itemMeanings vs = ms) := by
  match ts with
  | [] => cases h; exact ⟨[], rfl, fun _ => rfl⟩
  | t :: ts =>
    obtain ⟨v, vs, hv, hvs, rfl⟩ := ofItems_cons_eq_ok_iff.1 h
    obtain ⟨m, hm, hmeans⟩ := means_of_ofTree t hv
    obtain ⟨ms, hms, hmeans'⟩ := means_of_ofItems ts hvs
    refine ⟨m :: ms, by rw [Tree.itemMeanings?, hm, hms]; rfl, fun hwhole => ?_⟩
    rw [itemMeanings, hmeans hwhole.1, hmeans' hwhole.2]

/-- The values of members mean what the members mean. -/
theorem means_of_ofMembers {depth : Nat} (ts : List (Option String × Tree))
    {vs : List (String × Value)} (h : ofMembers depth ts = .ok vs) :
    ∃ ms, Tree.memberMeanings? ts = some ms ∧
      List.Forall₂ (fun v m => v.1 = m.1 ∧ v.2.Means m.2) vs ms := by
  match ts with
  | [] => cases h; exact ⟨[], rfl, .nil⟩
  | (none, _) :: _ => cases h
  | (some name, t) :: ts =>
    obtain ⟨v, vs, hv, hvs, rfl⟩ := ofMembers_cons_eq_ok_iff.1 h
    obtain ⟨m, hm, hmeans⟩ := means_of_ofTree t hv
    obtain ⟨ms, hms, hmeans'⟩ := means_of_ofMembers ts hvs
    exact ⟨(name, m) :: ms, by rw [Tree.memberMeanings?, hm, hms]; rfl,
      .cons ⟨rfl, hmeans⟩ hmeans'⟩

end

/-- **What is read from a text means what the text means.** -/
theorem denotes_of_parse {s : Bytes} {v : Value} (h : parse s = .ok v) :
    ∃ m, Document.Denotes s m ∧ v.Means m := by
  obtain ⟨t, hwrites, ht⟩ := parse_eq_ok_iff.1 h
  obtain ⟨m, hm, hmeans⟩ := means_of_ofTree t ht
  exact ⟨m, ⟨t, hwrites, hm⟩, hmeans⟩

/-! ### A normal value is known by its meaning -/

mutual

/-- **Meanings are kept apart.** Two normal values whose numbers are integers are the same if they
mean the same. -/
theorem meaning_injective {depth : Nat} (v w : Value) (hv : v.Whole) (hw : w.Whole)
    (hv' : v.Normal depth) (hw' : w.Normal depth) (h : v.meaning = w.meaning) : v = w := by
  match v with
  | .null => cases w <;> first | rfl | cases h
  | .boolean b => cases w <;> first | (cases h; rfl) | cases h
  -- an integer and a double can mean the same number, but a whole value has no double
  | .number (.int i) =>
    cases w with
    | number n =>
      cases n with
      | int j =>
        have hsame : (i : ℚ) = j := Meaning.number.inj h
        rw [Rat.intCast_inj.1 hsame]
      | real x => exact hw.elim
    | _ => cases h
  | .number (.real x) => exact hv.elim
  | .string s => cases w <;> first | (cases h; rfl) | cases h
  | .array vs =>
    cases w with
    | array ws =>
      -- the elements of an array are normal one level deeper
      cases depth with
      | zero => exact hv'.elim
      | succ depth =>
        exact congrArg array (itemMeanings_injective vs ws hv hw hv' hw' (Meaning.array.inj h))
    | _ => cases h
  | .object ms =>
    cases w with
    | object ns =>
      cases depth with
      | zero => exact hv'.elim
      | succ depth =>
        have hlookup := Meaning.object.inj h
        -- both are sorted, so they are one list if they look up the same
        have hsame : memberMeanings ms = memberMeanings ns :=
          (sorted_memberMeanings hv'.1).ext (sorted_memberMeanings hw'.1) (congrFun hlookup)
        exact congrArg object (memberMeanings_injective ms ns hv hw hv'.2 hw'.2 hsame)
    | _ => cases h

theorem itemMeanings_injective {depth : Nat} (vs ws : List Value) (hvs : WholeItems vs)
    (hws : WholeItems ws) (hvs' : NormalItems depth vs) (hws' : NormalItems depth ws)
    (h : itemMeanings vs = itemMeanings ws) : vs = ws := by
  match vs with
  | [] => cases ws with
    | nil => rfl
    | cons w ws => cases h
  | v :: vs =>
    cases ws with
    | nil => cases h
    | cons w ws =>
      obtain ⟨hhead, htail⟩ := List.cons.inj h
      rw [meaning_injective v w hvs.1 hws.1 hvs'.1 hws'.1 hhead,
        itemMeanings_injective vs ws hvs.2 hws.2 hvs'.2 hws'.2 htail]

theorem memberMeanings_injective {depth : Nat} (ms ns : List (String × Value))
    (hms : WholeMembers ms) (hns : WholeMembers ns) (hms' : NormalMembers depth ms)
    (hns' : NormalMembers depth ns) (h : memberMeanings ms = memberMeanings ns) : ms = ns := by
  match ms with
  | [] => cases ns with
    | nil => rfl
    | cons n ns => cases h
  | (name, v) :: ms =>
    cases ns with
    | nil => cases h
    | cons n ns =>
      obtain ⟨name', w⟩ := n
      obtain ⟨hhead, htail⟩ := List.cons.inj h
      obtain ⟨rfl, hmeaning⟩ := Prod.mk.inj hhead
      rw [meaning_injective v w hms.1 hns.1 hms'.1 hns'.1 hmeaning,
        memberMeanings_injective ms ns hms.2 hns.2 hms'.2 hns'.2 htail]

end

end Value

end Json

end ReplayProxy
