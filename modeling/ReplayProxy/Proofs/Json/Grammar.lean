import ReplayProxy.Proofs.Json.RoundTrip

/-!
# Which texts write a tree

The reader of JSON is a machine that takes one token after the other. What it accepts is described
here by the other direction: the tokens that write a tree (`Tree.tokens`), with a comma between two
elements or members and a colon behind each name. A text *writes* a tree (`Document.Writes`) if the
tree is complete and its tokens are the tokens of the text.

In one direction, the machine goes over the tokens of a tree and delivers it
(`Document.feedAll_tokens`). In the other, what the machine holds at any time accounts for all
tokens that it was fed: `Tree.Opens` says which tokens stand in front of a value that is due inside
open arrays and objects, and `Tree.Reads` says it for every place where the machine may stop.
`Reads.feed` is the step and `Reads.feedAll` the run.

Main statement:

* `Document.read_eq_iff_writes`: a tree is read from exactly the texts that write it.
-/

namespace ReplayProxy.Json

namespace Token

/-- All tokens of a text. -/
def all (s : Bytes) : List Token :=
  match _h : next? s with
  | none => []
  | some (t, rest) => t :: all rest
termination_by s.length
decreasing_by exact next?_shorter _h

theorem all_of_none {s : Bytes} (h : next? s = none) : all s = [] := by
  rw [all]
  split
  · rfl
  · next h' => rw [h] at h'; cases h'

theorem all_of_some {s u : Bytes} {t : Token} (h : next? s = some (t, u)) :
    all s = t :: all u := by
  rw [all]
  split
  · next h' => rw [h] at h'; cases h'
  · next h' =>
    rw [h] at h'
    cases h'
    rfl

theorem all_eq_nil_iff {s : Bytes} : all s = [] ↔ next? s = none := by
  refine ⟨fun hall => ?_, all_of_none⟩
  cases hnext : next? s with
  | none => rfl
  | some p =>
    rw [all_of_some hnext] at hall
    cases hall

/-- What is separated by commas. -/
def listed : List (List Token) → List Token
  | [] => []
  | x :: rest => x ++ rest.flatMap fun y => .comma :: y

/-- What stands in front of a further element or member: a comma, unless it is the first. -/
def gap {α : Type} : List α → List Token
  | [] => []
  | _ :: _ => [.comma]

theorem listed_concat (xs : List (List Token)) (x : List Token) :
    listed (xs ++ [x]) = listed xs ++ gap xs ++ x := by
  cases xs with
  | nil => simp [listed, gap]
  | cons y ys => simp [listed, gap]

theorem gap_map {α β : Type} (f : α → β) (xs : List α) : gap (xs.map f) = gap xs := by
  cases xs <;> rfl

theorem gap_reverse {α : Type} (xs : List α) : gap xs.reverse = gap xs := by
  cases xs with
  | nil => rfl
  | cons x xs =>
    cases hreverse : (x :: xs).reverse with
    | nil => simp at hreverse
    | cons y ys => rfl

theorem gap_of_ne_nil {α : Type} {xs : List α} (h : xs ≠ []) : gap xs = [.comma] := by
  cases xs with
  | nil => exact absurd rfl h
  | cons x xs => rfl

end Token

namespace Tree

open Token (listed gap listed_concat gap_map gap_reverse gap_of_ne_nil)

/-! ### The tokens of a tree -/

mutual

/-- The tokens that write a tree. -/
def tokens : Tree → List Token
  | .null => [.null]
  | .boolean b => [.boolean b]
  | .number n => [.number n]
  | .string s => [.string s]
  | .array items _ => .openArray :: (listed (itemTokens items) ++ [.closeArray])
  | .object members _ => .openObject :: (listed (memberTokens members) ++ [.closeObject])
  | .cut => []

/-- The tokens of each element. -/
def itemTokens : List Tree → List (List Token)
  | [] => []
  | t :: rest => t.tokens :: itemTokens rest

/-- The tokens of each member. -/
def memberTokens : List (Option String × Tree) → List (List Token)
  | [] => []
  | (name, t) :: rest => (.string name :: .colon :: t.tokens) :: memberTokens rest

end

mutual

/-- The text of the tree does not break off. -/
def Complete : Tree → Prop
  | .array items closed => closed = true ∧ CompleteItems items
  | .object members closed => closed = true ∧ CompleteMembers members
  | .cut => False
  | _ => True

/-- The texts of the elements do not break off. -/
def CompleteItems : List Tree → Prop
  | [] => True
  | t :: rest => t.Complete ∧ CompleteItems rest

/-- The texts of the members do not break off. -/
def CompleteMembers : List (Option String × Tree) → Prop
  | [] => True
  | (_, t) :: rest => t.Complete ∧ CompleteMembers rest

end

theorem itemTokens_eq_map (ts : List Tree) : itemTokens ts = ts.map tokens := by
  induction ts with
  | nil => rfl
  | cons t ts ih => rw [itemTokens, ih, List.map_cons]

theorem memberTokens_eq_map (ms : List (Option String × Tree)) :
    memberTokens ms = ms.map fun m => .string m.1 :: .colon :: m.2.tokens := by
  induction ms with
  | nil => rfl
  | cons m ms ih => rw [memberTokens, ih, List.map_cons]

theorem completeItems_iff {ts : List Tree} : CompleteItems ts ↔ ∀ t ∈ ts, t.Complete := by
  induction ts with
  | nil => simp [CompleteItems]
  | cons t ts ih => simp [CompleteItems, ih]

theorem completeMembers_iff {ms : List (Option String × Tree)} :
    CompleteMembers ms ↔ ∀ m ∈ ms, m.2.Complete := by
  induction ms with
  | nil => simp [CompleteMembers]
  | cons m ms ih => simp [CompleteMembers, ih]

/-! ### What the machine has read -/

/-- The elements of an open array. They are held in reverse. -/
def heldItems (items : List Tree) : List Token := listed (itemTokens items.reverse)

/-- The members of an open object. They are held in reverse. -/
def heldMembers (members : List (Option String × Tree)) : List Token :=
  listed (memberTokens members.reverse)

theorem heldItems_cons (t : Tree) (items : List Tree) :
    heldItems (t :: items) = heldItems items ++ gap items ++ t.tokens := by
  rw [heldItems, heldItems, itemTokens_eq_map, itemTokens_eq_map, List.reverse_cons,
    List.map_append, List.map_singleton, listed_concat, gap_map, gap_reverse]

theorem heldMembers_cons (name : Option String) (t : Tree)
    (members : List (Option String × Tree)) :
    heldMembers ((name, t) :: members) =
      heldMembers members ++ gap members ++ .string name :: .colon :: t.tokens := by
  rw [heldMembers, heldMembers, memberTokens_eq_map, memberTokens_eq_map, List.reverse_cons,
    List.map_append, List.map_singleton, listed_concat, gap_map, gap_reverse]

/-- Inside the open arrays and objects a value is due after these tokens. -/
inductive Opens : List Frame → List Token → Prop where
  | nil : Opens [] []
  | array {stack : List Frame} {us : List Token} (items : List Tree) (h : Opens stack us)
      (hitems : CompleteItems items) :
      Opens (.array items :: stack) (us ++ .openArray :: (heldItems items ++ gap items))
  | object {stack : List Frame} {us : List Token} (members : List (Option String × Tree))
      (name : Option String) (h : Opens stack us) (hmembers : CompleteMembers members) :
      Opens (.object members (some name) :: stack)
        (us ++ .openObject :: (heldMembers members ++ gap members ++ [.string name] ++ [.colon]))

/-- The reader has come to where it is over these tokens. -/
inductive Reads : Reader → List Token → Prop where
  | value {stack : List Frame} {us : List Token} (h : Opens stack us) : Reads ⟨stack, .value⟩ us
  | element {stack : List Frame} {us : List Token} (h : Opens stack us) :
      Reads ⟨.array [] :: stack, .element⟩ (us ++ [.openArray])
  | item {stack : List Frame} {us : List Token} (items : List Tree) (h : Opens stack us)
      (hitems : CompleteItems items) (hne : items ≠ []) :
      Reads ⟨.array items :: stack, .separator⟩ (us ++ .openArray :: heldItems items)
  | member {stack : List Frame} {us : List Token} (h : Opens stack us) :
      Reads ⟨.object [] none :: stack, .member⟩ (us ++ [.openObject])
  | pair {stack : List Frame} {us : List Token} (members : List (Option String × Tree))
      (h : Opens stack us) (hmembers : CompleteMembers members) (hne : members ≠ []) :
      Reads ⟨.object members none :: stack, .separator⟩
        (us ++ .openObject :: heldMembers members)
  | name {stack : List Frame} {us : List Token} (members : List (Option String × Tree))
      (h : Opens stack us) (hmembers : CompleteMembers members) (hne : members ≠ []) :
      Reads ⟨.object members none :: stack, .name⟩
        (us ++ .openObject :: (heldMembers members ++ [.comma]))
  | colon {stack : List Frame} {us : List Token} (members : List (Option String × Tree))
      (name : Option String) (h : Opens stack us) (hmembers : CompleteMembers members) :
      Reads ⟨.object members (some name) :: stack, .colon⟩
        (us ++ .openObject :: (heldMembers members ++ gap members ++ [.string name]))

/-- What one token leads to accounts for these tokens. -/
def Progress.Reads : Progress → List Token → Prop
  | .more r, us => Tree.Reads r us
  | .done t, us => t.Complete ∧ us = t.tokens
  | .broken _, _ => True

/-- A complete tree takes its place in what was open around it. -/
theorem Opens.deliver {stack : List Frame} {us : List Token} (h : Opens stack us) {t : Tree}
    (ht : t.Complete) : (deliver stack t).Reads (us ++ t.tokens) := by
  cases h with
  | nil => exact ⟨ht, rfl⟩
  | array items h hitems =>
    have hstep := Reads.item (t :: items) h ⟨ht, hitems⟩ (List.cons_ne_nil _ _)
    rw [heldItems_cons] at hstep
    simpa [Tree.deliver, Frame.add, Progress.Reads] using hstep
  | object members name h hmembers =>
    have hstep := Reads.pair ((name, t) :: members) h ⟨ht, hmembers⟩ (List.cons_ne_nil _ _)
    rw [heldMembers_cons] at hstep
    simpa [Tree.deliver, Frame.add, Progress.Reads] using hstep

/-- Where a value is due, a token is one or begins one. -/
theorem Opens.value {stack : List Frame} {us : List Token} (h : Opens stack us) (t : Token) :
    ((Reader.mk stack .value).value t).Reads (us ++ [t]) := by
  cases t with
  | null => exact h.deliver (t := .null) trivial
  | boolean b => exact h.deliver (t := .boolean b) trivial
  | number n => exact h.deliver (t := .number n) trivial
  | string s => exact h.deliver (t := .string s) trivial
  | openArray => exact .element h
  | openObject => exact .member h
  | closeArray | closeObject | comma | colon | fault => trivial

/-- The array that is closed. -/
theorem Opens.closeArray {stack : List Frame} {us : List Token} (h : Opens stack us)
    (items : List Tree) (hitems : CompleteItems items) :
    (Tree.deliver stack (.array items.reverse true)).Reads
      (us ++ .openArray :: (heldItems items ++ [.closeArray])) := by
  refine h.deliver (t := .array items.reverse true) ⟨rfl, completeItems_iff.2 fun t ht => ?_⟩
  exact completeItems_iff.1 hitems t (List.mem_reverse.1 ht)

/-- The object that is closed. -/
theorem Opens.closeObject {stack : List Frame} {us : List Token} (h : Opens stack us)
    (members : List (Option String × Tree)) (hmembers : CompleteMembers members) :
    (Tree.deliver stack (.object members.reverse true)).Reads
      (us ++ .openObject :: (heldMembers members ++ [.closeObject])) := by
  refine h.deliver (t := .object members.reverse true)
    ⟨rfl, completeMembers_iff.2 fun m hm => ?_⟩
  exact completeMembers_iff.1 hmembers m (List.mem_reverse.1 hm)

/-- **One token.** Whatever the reader makes of a token, it accounts for it. -/
theorem Reads.feed {r : Reader} {us : List Token} (h : Reads r us) (t : Token) :
    (r.feed t).Reads (us ++ [t]) := by
  cases h with
  | value h =>
    -- a value is wanted, and the token is one or begins one
    have hvalue := h.value t
    cases t <;> exact hvalue
  | element h =>
    -- the array may end at once
    rw [List.append_assoc]
    have hvalue := (Opens.array [] h trivial).value t
    rw [List.append_assoc] at hvalue
    cases t with
    | closeArray => exact h.closeArray [] trivial
    | _ => exact hvalue
  | item items h hitems hne =>
    -- behind an item there is a comma or the end
    rw [List.append_assoc]
    cases t with
    | comma =>
      have hopens := Opens.array items h hitems
      rw [gap_of_ne_nil hne] at hopens
      exact Reads.value hopens
    | closeArray => exact h.closeArray items hitems
    | _ => trivial
  | member h =>
    -- the object may end at once
    rw [List.append_assoc]
    cases t with
    | string name => exact Reads.colon [] name h trivial
    | closeObject => exact h.closeObject [] trivial
    | _ => trivial
  | pair members h hmembers hne =>
    -- behind a member there is a comma or the end
    rw [List.append_assoc]
    cases t with
    | comma => exact Reads.name members h hmembers hne
    | closeObject => exact h.closeObject members hmembers
    | _ => trivial
  | name members h hmembers hne =>
    -- behind a comma nothing but a name will do
    rw [List.append_assoc]
    cases t with
    | string name =>
      have hcolon := Reads.colon members name h hmembers
      rw [gap_of_ne_nil hne] at hcolon
      exact hcolon
    | _ => trivial
  | colon members name h hmembers =>
    rw [List.append_assoc]
    cases t with
    | colon => exact Reads.value (Opens.object members name h hmembers)
    | _ => trivial

end Tree

namespace Document

open Json.Tree (Frame Want Reader Progress deliver Complete CompleteItems CompleteMembers)

/-! ### The machine over tokens -/

/-- Reads on from between two tokens. -/
def feedAll (r : Reader) : List Token → Document
  | [] => ⟨r.breakOff, false⟩
  | t :: ts =>
    match r.feed t with
    | .more r => feedAll r ts
    | .done v => ⟨v, ts.isEmpty⟩
    | .broken v => ⟨v, false⟩

/-- Goes on from what one token led to. -/
def goOn : Progress → List Token → Document
  | .more r, ts => feedAll r ts
  | .done v, ts => ⟨v, ts.isEmpty⟩
  | .broken v, _ => ⟨v, false⟩

theorem feedAll_cons (r : Reader) (t : Token) (ts : List Token) :
    feedAll r (t :: ts) = goOn (r.feed t) ts := by
  rw [feedAll]
  cases r.feed t <;> rfl

/-- Of a text nothing matters but its tokens. -/
theorem readFrom_eq_feedAll (r : Reader) (s : Bytes) :
    readFrom r s = feedAll r (Token.all s) := by
  -- each token leaves less of the text
  induction hlength : s.length using Nat.strongRecOn generalizing r s with
  | ind n ih =>
    cases hnext : Token.next? s with
    | none =>
      rw [Token.all_of_none hnext, readFrom]
      split
      · rfl
      · next h' => rw [hnext] at h'; cases h'
    | some p =>
      obtain ⟨t, u⟩ := p
      rw [Token.all_of_some hnext, feedAll_cons, readFrom_token hnext]
      cases r.feed t with
      | more r' => exact ih _ (hlength ▸ Token.next?_shorter hnext) r' u rfl
      | done v =>
        have hended : (Token.next? u).isNone = (Token.all u).isEmpty := by
          rw [Bool.eq_iff_iff, Option.isNone_iff_eq_none, List.isEmpty_iff, Token.all_eq_nil_iff]
        rw [resume, goOn, hended]
      | broken v => rfl

/-! ### What is read is written -/

/-- **All tokens.** What was read is written by the tokens before the reader and those behind. -/
theorem complete_of_reads {r : Reader} {us ts : List Token} {t : Tree} (h : Tree.Reads r us)
    (hread : feedAll r ts = ⟨t, true⟩) : t.Complete ∧ us ++ ts = t.tokens := by
  induction ts generalizing r us with
  | nil => cases hread
  | cons u ts ih =>
    have hstep := h.feed u
    rw [feedAll_cons] at hread
    cases hfeed : r.feed u with
    | more r' =>
      rw [hfeed] at hread hstep
      obtain ⟨hcomplete, htokens⟩ := ih hstep hread
      exact ⟨hcomplete, by rw [← htokens, List.append_assoc]; rfl⟩
    | done v =>
      rw [hfeed] at hread hstep
      obtain ⟨hcomplete, htokens⟩ := hstep
      obtain ⟨rfl, hended⟩ := Document.mk.inj hread
      -- nothing may follow a finished tree
      rw [List.isEmpty_iff.1 hended]
      exact ⟨hcomplete, htokens⟩
    | broken v =>
      rw [hfeed] at hread
      cases hread

/-! ### What is written is read -/

-- The three lemmas follow the recursion of the tree.
mutual

/-- Where a value is due, the reader goes over the tokens of a tree and delivers it. -/
theorem feedAll_tokens (t : Tree) (h : t.Complete) {w : Want} (hw : Due w) (stack : List Frame)
    (ts : List Token) : feedAll ⟨stack, w⟩ (t.tokens ++ ts) = goOn (deliver stack t) ts := by
  match t with
  | .null =>
    rw [Tree.tokens, List.singleton_append, feedAll_cons, feed_of_due hw stack (by decide)]
    rfl
  | .boolean b =>
    rw [Tree.tokens, List.singleton_append, feedAll_cons, feed_of_due hw stack (by simp)]
    rfl
  | .number n =>
    rw [Tree.tokens, List.singleton_append, feedAll_cons, feed_of_due hw stack (by simp)]
    rfl
  | .string s =>
    rw [Tree.tokens, List.singleton_append, feedAll_cons, feed_of_due hw stack (by simp)]
    rfl
  | .cut => exact h.elim
  -- an array or an object without contents is two tokens
  | .array [] closed =>
    obtain ⟨rfl, -⟩ := h
    have htokens : (Tree.array [] true).tokens ++ ts = .openArray :: .closeArray :: ts := rfl
    rw [htokens, feedAll_cons, feed_of_due hw stack (by decide)]
    exact feedAll_cons ⟨.array [] :: stack, .element⟩ .closeArray ts
  | .array (v :: vs) closed =>
    obtain ⟨rfl, hv, hvs⟩ := h
    have htokens : (Tree.array (v :: vs) true).tokens ++ ts =
        .openArray :: (v.tokens ++
          ((Tree.itemTokens vs).flatMap (fun y => .comma :: y) ++ .closeArray :: ts)) := by
      simp [Tree.tokens, Tree.itemTokens, Token.listed]
    rw [htokens, feedAll_cons, feed_of_due hw stack (by decide)]
    -- the bracket opened a frame without elements, in which the first one is due
    change feedAll ⟨.array [] :: stack, .element⟩ _ = _
    rw [feedAll_tokens v hv (.inr rfl)]
    exact feedAll_items vs hvs [v] stack ts
  | .object [] closed =>
    obtain ⟨rfl, -⟩ := h
    have htokens : (Tree.object [] true).tokens ++ ts = .openObject :: .closeObject :: ts := rfl
    rw [htokens, feedAll_cons, feed_of_due hw stack (by decide)]
    exact feedAll_cons ⟨.object [] none :: stack, .member⟩ .closeObject ts
  | .object ((name, v) :: ms) closed =>
    obtain ⟨rfl, hv, hms⟩ := h
    have htokens : (Tree.object ((name, v) :: ms) true).tokens ++ ts =
        .openObject :: .string name :: .colon :: (v.tokens ++
          ((Tree.memberTokens ms).flatMap (fun y => .comma :: y) ++ .closeObject :: ts)) := by
      simp [Tree.tokens, Tree.memberTokens, Token.listed]
    rw [htokens, feedAll_cons, feed_of_due hw stack (by decide)]
    -- the brace opened a frame without members, in which the first name is due
    change feedAll ⟨.object [] (some name) :: stack, .value⟩ _ = _
    rw [feedAll_tokens v hv (.inl rfl)]
    exact feedAll_members ms hms [(name, v)] stack ts

/-- After an element, the reader goes over the others and closes the array. -/
theorem feedAll_items (vs : List Tree) (h : CompleteItems vs) (held : List Tree)
    (stack : List Frame) (ts : List Token) :
    feedAll ⟨.array held :: stack, .separator⟩
        ((Tree.itemTokens vs).flatMap (fun y => .comma :: y) ++ .closeArray :: ts) =
      goOn (deliver stack (.array (held.reverse ++ vs) true)) ts := by
  match vs with
  | [] =>
    rw [List.append_nil]
    exact feedAll_cons ⟨.array held :: stack, .separator⟩ .closeArray ts
  | v :: vs =>
    rw [Tree.itemTokens, List.flatMap_cons, List.cons_append, List.cons_append, List.append_assoc,
      feedAll_cons]
    change feedAll ⟨.array held :: stack, .value⟩ _ = _
    rw [feedAll_tokens v h.1 (.inl rfl)]
    -- the tree went into the frame; the elements of a frame stand in reverse
    change feedAll ⟨.array (v :: held) :: stack, .separator⟩ _ = _
    rw [feedAll_items vs h.2, List.reverse_cons, List.append_assoc]
    rfl

/-- After a member, the reader goes over the others and closes the object. -/
theorem feedAll_members (ms : List (Option String × Tree)) (h : CompleteMembers ms)
    (held : List (Option String × Tree)) (stack : List Frame) (ts : List Token) :
    feedAll ⟨.object held none :: stack, .separator⟩
        ((Tree.memberTokens ms).flatMap (fun y => .comma :: y) ++ .closeObject :: ts) =
      goOn (deliver stack (.object (held.reverse ++ ms) true)) ts := by
  match ms with
  | [] =>
    rw [List.append_nil]
    exact feedAll_cons ⟨.object held none :: stack, .separator⟩ .closeObject ts
  | (name, v) :: ms =>
    -- a member is a comma, its name, a colon and its value
    have htokens : (Tree.memberTokens ((name, v) :: ms)).flatMap (fun y => Token.comma :: y) ++
        .closeObject :: ts = .comma :: .string name :: .colon :: (v.tokens ++
          ((Tree.memberTokens ms).flatMap (fun y => .comma :: y) ++ .closeObject :: ts)) := by
      simp [Tree.memberTokens]
    rw [htokens, feedAll_cons]
    change feedAll ⟨.object held (some name) :: stack, .value⟩ _ = _
    rw [feedAll_tokens v h.1 (.inl rfl)]
    change feedAll ⟨.object ((name, v) :: held) none :: stack, .separator⟩ _ = _
    rw [feedAll_members ms h.2, List.reverse_cons, List.append_assoc]
    rfl

end

/-- The text writes the tree: the tree is complete, and the tokens of the text are its tokens. -/
def Writes (s : Bytes) (t : Tree) : Prop := t.Complete ∧ Token.all s = t.tokens

/-- **Texts and trees.** A tree is read from exactly the texts that write it. -/
theorem read_eq_iff_writes {s : Bytes} {t : Tree} : read s = ⟨t, true⟩ ↔ Writes s t := by
  rw [read, readFrom_eq_feedAll]
  constructor
  · exact complete_of_reads (.value .nil)
  · rintro ⟨hcomplete, htokens⟩
    -- nothing is open around the tree, and nothing follows it
    have hread := feedAll_tokens t hcomplete (.inl rfl) [] []
    rw [List.append_nil] at hread
    rw [htokens, Reader.start, hread]
    rfl

/-- A text writes one tree at most. -/
theorem Writes.unique {s : Bytes} {t t' : Tree} (h : Writes s t) (h' : Writes s t') : t = t' := by
  have hread := read_eq_iff_writes.2 h
  rw [read_eq_iff_writes.2 h'] at hread
  exact (Document.mk.inj hread).1.symm

end Document

end ReplayProxy.Json
