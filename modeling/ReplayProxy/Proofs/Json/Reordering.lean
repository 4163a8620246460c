import Mathlib.Data.List.Nodup
import Mathlib.Data.List.Perm.Basic
import Mathlib.Logic.Relation
import ReplayProxy.Proofs.Json.Layout
import ReplayProxy.Proofs.Json.Meaning

/-!
# Texts that are laid out differently

A text of JSON is laid out differently if the blanks between two tokens are others, or if the
members of an object stand in another order. The object may be any in the text, however deep.

What the reader cannot see is that two neighbouring members with different names have changed
places (`Tree.Exchanged`); a name that is written twice does no harm to the members around it. A
text that has come about by such exchanges, or by other blanks, is *rearranged*
(`Document.Rearranged`). In an object with distinct names any order of the members is reached in
this way (`Tree.Reordered`), and a text with such an object, or with other blanks, is *laid out*
differently (`Document.Relaid`).

Main statements:

* `Value.parse_of_rearranged`: a text that is rearranged is read as the same value.
* `Value.parse_of_relaid`: the layout makes no difference to the value that is read.
-/

namespace ReplayProxy.Json

/-- Two neighbouring members of one object somewhere in the tree, whose names are different, have
changed places. -/
inductive Tree.Exchanged : Tree → Tree → Prop where
  | here {before after : List (Option String × Tree)} {m n : Option String × Tree} {closed : Bool}
      (hne : m.1 ≠ n.1) :
      Exchanged (.object (before ++ m :: n :: after) closed)
        (.object (before ++ n :: m :: after) closed)
  | item {before after : List Tree} {t t' : Tree} {closed : Bool} (h : Exchanged t t') :
      Exchanged (.array (before ++ t :: after) closed) (.array (before ++ t' :: after) closed)
  | member {before after : List (Option String × Tree)} {name : Option String} {t t' : Tree}
      {closed : Bool} (h : Exchanged t t') :
      Exchanged (.object (before ++ (name, t) :: after) closed)
        (.object (before ++ (name, t') :: after) closed)

/-- One object somewhere in the tree, whose members have distinct names, has them in another
order. -/
inductive Tree.Reordered : Tree → Tree → Prop where
  | here {ms ns : List (Option String × Tree)} {closed : Bool} (hperm : ms.Perm ns)
      (hnodup : (ms.map Prod.fst).Nodup) : Reordered (.object ms closed) (.object ns closed)
  | item {before after : List Tree} {t t' : Tree} {closed : Bool} (h : Reordered t t') :
      Reordered (.array (before ++ t :: after) closed) (.array (before ++ t' :: after) closed)
  | member {before after : List (Option String × Tree)} {name : Option String} {t t' : Tree}
      {closed : Bool} (h : Reordered t t') :
      Reordered (.object (before ++ (name, t) :: after) closed)
        (.object (before ++ (name, t') :: after) closed)

/-- The second text is the first one with other blanks at one place between two tokens, or with
another order of the members of one object. -/
inductive Document.Relaid : Bytes → Bytes → Prop where
  | blanks {p b b' u : Bytes} (hb : Blanks b) (hb' : Blanks b')
      (hplace : Token.Boundary (p ++ (b ++ u)) (b ++ u)) : Relaid (p ++ (b ++ u)) (p ++ (b' ++ u))
  | members {s s' : Bytes} {t t' : Tree} (hs : Writes s t) (hs' : Writes s' t')
      (h : t.Reordered t') : Relaid s s'

/-- The second text is the first one with other blanks at one place between two tokens, or with
members of objects exchanged. -/
inductive Document.Rearranged : Bytes → Bytes → Prop where
  | blanks {p b b' u : Bytes} (hb : Blanks b) (hb' : Blanks b')
      (hplace : Token.Boundary (p ++ (b ++ u)) (b ++ u)) :
      Rearranged (p ++ (b ++ u)) (p ++ (b' ++ u))
  | members {s s' : Bytes} {t t' : Tree} (hs : Writes s t) (hs' : Writes s' t')
      (h : Relation.ReflTransGen Tree.Exchanged t t') : Rearranged s s'

/-! ### Orders and exchanges -/

/-- Members with distinct names are brought into any order by exchanges of neighbours, whatever
stands in front of them. -/
theorem Tree.exchanges_of_perm {ms ns : List (Option String × Tree)} (hperm : ms.Perm ns)
    (hnodup : (ms.map Prod.fst).Nodup) (front : List (Option String × Tree)) (closed : Bool) :
    Relation.ReflTransGen Exchanged (.object (front ++ ms) closed)
      (.object (front ++ ns) closed) := by
  -- a member that stays where it is joins those in front
  induction hperm generalizing front with
  | nil => exact .refl
  | cons m _ ih =>
    have hrest := ih (List.nodup_cons.1 hnodup).2 (front ++ [m])
    rwa [List.append_assoc, List.append_assoc] at hrest
  | swap m n rest =>
    have hne : n.1 ≠ m.1 := by
      intro hsame
      simp [hsame] at hnodup
    exact .single (.here hne)
  | trans hfirst _ ih ih' =>
    exact (ih hnodup front).trans (ih' ((hfirst.map Prod.fst).nodup_iff.1 hnodup) front)

theorem Tree.Reordered.exchanges {t t' : Tree} (h : t.Reordered t') :
    Relation.ReflTransGen Tree.Exchanged t t' := by
  -- exchanges inside an element or a member are exchanges inside the whole
  induction h with
  | here hperm hnodup => exact exchanges_of_perm hperm hnodup [] _
  | @item before after _ _ closed _ ih =>
    exact Relation.ReflTransGen.lift (fun t => Tree.array (before ++ t :: after) closed)
      (fun _ _ hstep => .item hstep) _ _ ih
  | @member before after name _ _ closed _ ih =>
    exact Relation.ReflTransGen.lift (fun t => Tree.object (before ++ (name, t) :: after) closed)
      (fun _ _ hstep => .member hstep) _ _ ih

theorem Document.Relaid.rearranged {s s' : Bytes} (h : Relaid s s') : Rearranged s s' := by
  cases h with
  | blanks hb hb' hplace => exact .blanks hb hb' hplace
  | members hs hs' hreordered => exact .members hs hs' hreordered.exchanges

namespace Value

open Document (Writes Relaid Rearranged)

theorem ofItems_eq_ok_iff {depth : Nat} {ts : List Tree} {vs : List Value} :
    ofItems depth ts = .ok vs ↔ List.Forall₂ (fun t v => ofTree depth t = .ok v) ts vs := by
  induction ts generalizing vs with
  | nil => cases vs <;> simp [ofItems]
  | cons t ts ih =>
    rw [ofItems_cons_eq_ok_iff]
    constructor
    · rintro ⟨v, ws, hv, hws, rfl⟩
      exact .cons hv (ih.1 hws)
    · rintro (_ | ⟨hv, hvs⟩)
      exact ⟨_, _, hv, ih.2 hvs, rfl⟩

theorem ofMembers_eq_ok_iff {depth : Nat} {ts : List (Option String × Tree)}
    {ms : List (String × Value)} :
    ofMembers depth ts = .ok ms ↔
      List.Forall₂ (fun t m => t.1 = some m.1 ∧ ofTree depth t.2 = .ok m.2) ts ms := by
  induction ts generalizing ms with
  | nil => cases ms <;> simp [ofMembers]
  | cons t ts ih =>
    obtain ⟨_ | name, t⟩ := t
    -- a name that cannot be used makes no member
    · constructor
      · intro h
        cases h
      · rintro (_ | ⟨⟨hname, -⟩, -⟩)
        cases hname
    · rw [ofMembers_cons_eq_ok_iff]
      constructor
      · rintro ⟨v, ws, hv, hws, rfl⟩
        exact .cons ⟨rfl, hv⟩ (ih.1 hws)
      · intro h
        cases h with
        | @cons _ m _ ms hm hms =>
          obtain ⟨name', v⟩ := m
          obtain ⟨hname, hv⟩ := hm
          cases hname
          exact ⟨v, ms, hv, ih.2 hms, rfl⟩

/-- One element is exchanged for another that corresponds to the same. -/
theorem forall₂_exchange {α β : Type} {R : α → β → Prop} {before after : List α} {a a' : α}
    {bs : List β} (hR : ∀ b, R a b → R a' b) (h : List.Forall₂ R (before ++ a :: after) bs) :
    List.Forall₂ R (before ++ a' :: after) bs := by
  induction before generalizing bs with
  | nil =>
    cases h with
    | cons ha hafter => exact .cons (hR _ ha) hafter
  | cons c before ih =>
    cases h with
    | cons hc hrest => exact .cons hc (ih hrest)

/-- Two neighbours are exchanged, and so are those that correspond to them. -/
theorem forall₂_swap {α β : Type} {R : α → β → Prop} {before after : List α} {a a' : α}
    {bs : List β} (h : List.Forall₂ R (before ++ a :: a' :: after) bs) :
    ∃ front b b' back, bs = front ++ b :: b' :: back ∧ R a b ∧ R a' b' ∧
      List.Forall₂ R (before ++ a' :: a :: after) (front ++ b' :: b :: back) := by
  -- what stands in front of the two has its own counterparts, which stay in front
  induction before generalizing bs with
  | nil =>
    rcases h with _ | ⟨ha, _ | ⟨ha', hafter⟩⟩
    exact ⟨[], _, _, _, rfl, ha, ha', .cons ha' (.cons ha hafter)⟩
  | cons c before ih =>
    rcases h with _ | ⟨hc, hrest⟩
    obtain ⟨front, b, b', back, rfl, ha, ha', hswapped⟩ := ih hrest
    exact ⟨_ :: front, b, b', back, rfl, ha, ha', .cons hc hswapped⟩

/-- **One exchange of members.** The tree has the same value. -/
theorem ofTree_of_exchanged {t t' : Tree} (h : t.Exchanged t') {depth : Nat} {v : Value}
    (hv : ofTree depth t = .ok v) : ofTree depth t' = .ok v := by
  induction h generalizing depth v with
  | here hne =>
    rw [ofTree_object_eq_ok_iff] at hv ⊢
    obtain ⟨depth, ms, rfl, hclosed, hms, rfl⟩ := hv
    obtain ⟨front, m, n, back, rfl, hm, hn, hswapped⟩ := forall₂_swap (ofMembers_eq_ok_iff.1 hms)
    -- the names that are read are those that are written
    have hne' : m.1 ≠ n.1 := by
      intro hsame
      exact hne (by rw [hm.1, hn.1, hsame])
    refine ⟨depth, _, rfl, hclosed, ofMembers_eq_ok_iff.2 hswapped, ?_⟩
    rw [sortMembers_exchange hne']
  | item _ ih =>
    rw [ofTree_array_eq_ok_iff] at hv ⊢
    obtain ⟨depth, vs, rfl, hclosed, hvs, rfl⟩ := hv
    refine ⟨depth, vs, rfl, hclosed, ofItems_eq_ok_iff.2 ?_, rfl⟩
    exact forall₂_exchange (fun _ => ih) (ofItems_eq_ok_iff.1 hvs)
  | @member before after name t t' closed _ ih =>
    rw [ofTree_object_eq_ok_iff] at hv ⊢
    obtain ⟨depth, ms, rfl, hclosed, hms, rfl⟩ := hv
    refine ⟨depth, ms, rfl, hclosed, ofMembers_eq_ok_iff.2 ?_, rfl⟩
    refine forall₂_exchange (a := (name, t)) (fun _ hm => ?_) (ofMembers_eq_ok_iff.1 hms)
    exact ⟨hm.1, ih hm.2⟩

theorem ofTree_of_exchanges {t t' : Tree} (h : Relation.ReflTransGen Tree.Exchanged t t')
    {depth : Nat} {v : Value} (hv : ofTree depth t = .ok v) : ofTree depth t' = .ok v := by
  induction h with
  | refl => exact hv
  | tail _ hstep ih => exact ofTree_of_exchanged hstep ih

theorem parse_of_rearranged_once {s s' : Bytes} (h : Rearranged s s') {v : Value}
    (hparse : parse s = .ok v) : parse s' = .ok v := by
  obtain ⟨t, ht, hv⟩ := parse_eq_ok_iff.1 hparse
  cases h with
  | blanks hb hb' hplace => exact parse_eq_ok_iff.2 ⟨t, ht.of_blanks hb hb' hplace, hv⟩
  | members hs hs' hexchanges =>
    -- a text writes one tree only, so the tree that was read is the one that was exchanged
    rw [ht.unique hs] at hv
    exact parse_eq_ok_iff.2 ⟨_, hs', ofTree_of_exchanges hexchanges hv⟩

/-- **Rearranging makes no difference**: a text that is rearranged, any number of times, is read
as the same value. -/
theorem parse_of_rearranged {s s' : Bytes} (h : Relation.ReflTransGen Rearranged s s') {v : Value}
    (hparse : parse s = .ok v) : parse s' = .ok v := by
  induction h with
  | refl => exact hparse
  | tail _ hstep ih => exact parse_of_rearranged_once hstep ih

/-- **The layout makes no difference**: a text that is laid out differently, by any number of
changes, is read as the same value. -/
theorem parse_of_relaid {s s' : Bytes} (h : Relation.ReflTransGen Relaid s s') {v : Value}
    (hparse : parse s = .ok v) : parse s' = .ok v :=
  parse_of_rearranged (Relation.ReflTransGen.mono (fun _ _ hstep => hstep.rearranged) _ _ h) hparse

end Value

end ReplayProxy.Json
