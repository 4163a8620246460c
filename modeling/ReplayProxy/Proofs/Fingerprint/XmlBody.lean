import Mathlib.Logic.Relation
import ReplayProxy.Proofs.Fingerprint.ContentType
import ReplayProxy.Proofs.Text.Blanks

/-!
# XML bodies in fingerprints

A body of XML takes part in the fingerprint without the blanks around it and without those between
a `>` and the next `<`. This file says that nothing else happens to it
(`Fingerprint.Thins`), that nothing of the kind is left (`Fingerprint.Tight`), and that bodies have
one normal form exactly if they differ in such blanks alone (`Fingerprint.Respaced`).

The text is gone through from the left, and what is met is one of four things
(`Fingerprint.gap_induction`): the end, a character that is no `>`, a `>` with a gap behind it, or a
`>` with none. A gap ends at a `<`, which is no `>`, so two gaps never share a character and a text
may be cut in front of any `>` (`Fingerprint.dropGaps_append`). For this reason it does not matter
what stands around a gap, and that the normal form is its own follows: it is the text with other
blanks.

Main statement:

* `Fingerprint.normalBody_tight`: what is hashed for XML, and when it is the same.
-/

namespace ReplayProxy

namespace Fingerprint

open Blank (Only)

/-! ### Gaps -/

/-- The second text is the first one with other blanks in one place: around it, or between a `>`
and the next `<` if only blanks stand there. -/
inductive Respaced : List Char → List Char → Prop where
  | around {bs bs' cs es es' : List Char} (hbs : Only bs) (hbs' : Only bs') (hes : Only es)
      (hes' : Only es') : Respaced (bs ++ (cs ++ es)) (bs' ++ (cs ++ es'))
  | between {before bs bs' after : List Char} (hbs : Only bs) (hbs' : Only bs') :
      Respaced (before ++ '>' :: (bs ++ '<' :: after)) (before ++ '>' :: (bs' ++ '<' :: after))

/-- The second text is the first one without some of its blanks. -/
inductive Thins : List Char → List Char → Prop where
  | nil : Thins [] []
  | keep (c : Char) {cs ds : List Char} (h : Thins cs ds) : Thins (c :: cs) (c :: ds)
  | drop {c : Char} (hc : isBlank c = true) {cs ds : List Char} (h : Thins cs ds) :
      Thins (c :: cs) ds

theorem Thins.length_le {cs ds : List Char} (h : Thins cs ds) : ds.length ≤ cs.length := by
  induction h with
  | nil => exact Nat.le_refl _
  | keep c h ih => exact Nat.succ_le_succ ih
  | drop hc h ih => exact Nat.le_succ_of_le ih

theorem Thins.prepend {bs cs ds : List Char} (hbs : Only bs) (h : Thins cs ds) :
    Thins (bs ++ cs) ds := by
  induction bs with
  | nil => exact h
  | cons b bs ih =>
    obtain ⟨hb, hbs⟩ := List.forall_mem_cons.1 hbs
    exact .drop hb (ih hbs)

theorem Thins.append {cs ds es : List Char} (h : Thins cs ds) (hes : Only es) :
    Thins (cs ++ es) ds := by
  induction h with
  | nil => simpa using Thins.nil.prepend hes
  | keep c h ih => exact .keep c ih
  | drop hc h ih => exact .drop hc ih

/-- What follows a `>` does not make a gap: behind its blanks there is no `<`. -/
def NoGap (cs : List Char) : Prop := (cs.dropWhile isBlank).head? ≠ some '<'

theorem NoGap.append {cs : List Char} (h : NoGap cs) (ds : List Char) :
    NoGap (cs ++ '>' :: ds) := by
  rw [NoGap, List.dropWhile_append]
  split
  · rw [List.dropWhile_cons_of_neg (by decide)]
    simp
  · next hne =>
    rw [List.head?_append_of_ne_nil _ (by simpa using hne)]
    exact h

theorem dropGaps_other {c : Char} (hc : c ≠ '>') (cs : List Char) :
    dropGaps (c :: cs) = c :: dropGaps cs := by
  rw [dropGaps, if_neg hc]

theorem dropGaps_gap {bs : List Char} (hbs : Only bs) (after : List Char) :
    dropGaps ('>' :: (bs ++ '<' :: after)) = '>' :: '<' :: dropGaps after := by
  have hdrop : (bs ++ '<' :: after).dropWhile isBlank = '<' :: after := by
    rw [List.dropWhile_append_of_pos hbs]
    rfl
  rw [dropGaps, if_pos rfl]
  simp only [hdrop, List.head?_cons, if_true]
  rw [dropGaps_other (by decide)]

theorem dropGaps_mark {cs : List Char} (h : NoGap cs) :
    dropGaps ('>' :: cs) = '>' :: dropGaps cs := by
  rw [dropGaps, if_pos rfl]
  exact if_neg h

/-- Texts are gone through as `dropGaps` goes through them. -/
@[elab_as_elim]
theorem gap_induction {motive : List Char → Prop} (cs : List Char) (nil : motive [])
    (other : ∀ c cs, c ≠ '>' → motive cs → motive (c :: cs))
    (gap : ∀ bs after, Only bs → motive after → motive ('>' :: (bs ++ '<' :: after)))
    (mark : ∀ cs, NoGap cs → motive cs → motive ('>' :: cs)) : motive cs := by
  match cs with
  | [] => exact nil
  | c :: cs =>
    by_cases hc : c = '>'
    · subst hc
      by_cases hgap : NoGap cs
      · exact mark cs hgap (gap_induction cs nil other gap mark)
      -- the blanks of a gap are passed at once, together with the marks around them
      · obtain ⟨after, hafter⟩ := List.head?_eq_some_iff.1 (not_not.1 hgap)
        have hcs : cs = cs.takeWhile isBlank ++ '<' :: after := by
          rw [← hafter, List.takeWhile_append_dropWhile]
        rw [hcs]
        exact gap _ after (fun b hb => List.mem_takeWhile_imp hb)
          (gap_induction after nil other gap mark)
    · exact other c cs hc (gap_induction cs nil other gap mark)
termination_by cs.length
decreasing_by
  · simp
  · have hlength := congrArg List.length hcs
    simp at hlength ⊢
    omega
  · simp

theorem dropGaps_append (cs ds : List Char) :
    dropGaps (cs ++ '>' :: ds) = dropGaps cs ++ dropGaps ('>' :: ds) := by
  -- a gap in front ends before the cut, and what made no gap makes none with the cut behind it
  induction cs using gap_induction with
  | nil => rw [dropGaps, List.nil_append, List.nil_append]
  | other c cs hc ih =>
    rw [List.cons_append, dropGaps_other hc, dropGaps_other hc, ih, List.cons_append]
  | gap bs after hbs ih =>
    rw [List.cons_append, List.append_assoc, List.cons_append, dropGaps_gap hbs, dropGaps_gap hbs,
      ih]
    rfl
  | mark cs h ih =>
    rw [List.cons_append, dropGaps_mark (h.append ds), dropGaps_mark h, ih, List.cons_append]

theorem head?_dropGaps (cs : List Char) : (dropGaps cs).head? = cs.head? := by
  induction cs using gap_induction with
  | nil => rw [dropGaps]
  | other c cs hc ih => rw [dropGaps_other hc]; rfl
  | gap bs after hbs ih => rw [dropGaps_gap hbs]; rfl
  | mark cs h ih => rw [dropGaps_mark h]; rfl

theorem getLast?_dropGaps (cs : List Char) : (dropGaps cs).getLast? = cs.getLast? := by
  induction cs using gap_induction with
  | nil => rw [dropGaps]
  | other c cs hc ih => rw [dropGaps_other hc, List.getLast?_cons, ih, List.getLast?_cons]
  | gap bs after hbs ih =>
    rw [dropGaps_gap hbs]
    simp [List.getLast?_cons, List.getLast?_append, ih]
  | mark cs h ih => rw [dropGaps_mark h, List.getLast?_cons, ih, List.getLast?_cons]

theorem thins_dropGaps (cs : List Char) : Thins cs (dropGaps cs) := by
  induction cs using gap_induction with
  | nil => rw [dropGaps]; exact .nil
  | other c cs hc ih => rw [dropGaps_other hc]; exact .keep c ih
  | gap bs after hbs ih => rw [dropGaps_gap hbs]; exact .keep '>' (.prepend hbs (.keep '<' ih))
  | mark cs h ih => rw [dropGaps_mark h]; exact .keep '>' ih

theorem respaced_dropGaps (before cs : List Char) :
    Relation.EqvGen Respaced (before ++ cs) (before ++ dropGaps cs) := by
  -- what has been gone through joins the text in front, so this varies along the induction
  induction cs using gap_induction generalizing before with
  | nil =>
    rw [dropGaps]
    exact .refl _
  | other c cs hc ih =>
    have hrest := ih (before ++ [c])
    rw [dropGaps_other hc]
    simpa using hrest
  | gap bs after hbs ih =>
    have hstep : Respaced (before ++ '>' :: (bs ++ '<' :: after))
        (before ++ '>' :: ([] ++ '<' :: after)) := .between hbs Blank.only_nil
    -- this gap is closed first, and the others after it
    have hrest := ih (before ++ ['>', '<'])
    rw [dropGaps_gap hbs]
    exact .trans _ _ _ (.rel _ _ hstep) (by simpa using hrest)
  | mark cs h ih =>
    have hrest := ih (before ++ ['>'])
    rw [dropGaps_mark h]
    simpa using hrest

/-! ### The normal form -/

/-- Blanks between a `>` and the next `<` make no difference. -/
theorem dropGaps_trimList_between {bs : List Char} (hbs : Only bs) (before after : List Char) :
    dropGaps (Blank.trimList (before ++ '>' :: (bs ++ '<' :: after))) =
      dropGaps (before.dropWhile isBlank) ++
        '>' :: '<' :: dropGaps (after.rdropWhile isBlank) := by
  rw [Blank.trimList_solid (by decide) (by decide), dropGaps_append, dropGaps_gap hbs]

theorem dropGaps_trimList_congr {cs ds : List Char} (h : Respaced cs ds) :
    dropGaps (Blank.trimList cs) = dropGaps (Blank.trimList ds) := by
  cases h with
  | around hbs hbs' hes hes' => rw [Blank.trimList_append hbs hes, Blank.trimList_append hbs' hes']
  | between hbs hbs' => rw [dropGaps_trimList_between hbs, dropGaps_trimList_between hbs']

theorem respaced_normal (cs : List Char) :
    Relation.EqvGen Respaced cs (dropGaps (Blank.trimList cs)) := by
  obtain ⟨bs, es, hbs, hes, hcs⟩ := Blank.exists_trimList cs
  have htrimmed : Respaced cs (Blank.trimList cs) := by
    have hstep : Respaced (bs ++ (Blank.trimList cs ++ es)) ([] ++ (Blank.trimList cs ++ [])) :=
      .around hbs Blank.only_nil hes Blank.only_nil
    rwa [← hcs, List.append_nil, List.nil_append] at hstep
  exact .trans _ _ _ (.rel _ _ htrimmed) (respaced_dropGaps [] (Blank.trimList cs))

/-- **Texts have one normal form exactly if they differ in blanks around them and between their
tags.** -/
theorem normal_eq_iff {cs ds : List Char} :
    dropGaps (Blank.trimList cs) = dropGaps (Blank.trimList ds) ↔
      Relation.EqvGen Respaced cs ds := by
  constructor
  · intro h
    -- both texts differ from the one normal form in blanks alone
    have hds := respaced_normal ds
    rw [← h] at hds
    exact .trans _ _ _ (respaced_normal cs) (.symm _ _ hds)
  · intro h
    induction h with
    | rel _ _ hstep => exact dropGaps_trimList_congr hstep
    | refl _ => rfl
    | symm _ _ _ ih => exact ih.symm
    | trans _ _ _ _ _ ih ih' => exact ih.trans ih'

theorem normal_normal (cs : List Char) :
    dropGaps (Blank.trimList (dropGaps (Blank.trimList cs))) = dropGaps (Blank.trimList cs) :=
  normal_eq_iff.2 (.symm _ _ (respaced_normal cs))

theorem thins_normal (cs : List Char) : Thins cs (dropGaps (Blank.trimList cs)) := by
  obtain ⟨bs, es, hbs, hes, hcs⟩ := Blank.exists_trimList cs
  have hthins := ((thins_dropGaps (Blank.trimList cs)).append hes).prepend hbs
  rwa [← hcs] at hthins

/-- There are no blanks around the text, and none between a `>` and the next `<`. -/
structure Tight (cs : List Char) : Prop where
  front : ∀ c ∈ cs.head?, isBlank c = false
  back : ∀ c ∈ cs.getLast?, isBlank c = false
  inside : ∀ before bs after, cs = before ++ '>' :: (bs ++ '<' :: after) → Only bs → bs = []

theorem tight_normal (cs : List Char) : Tight (dropGaps (Blank.trimList cs)) := by
  obtain ⟨hhead, hlast⟩ := Blank.solid_trimList cs
  have hfront : ∀ c ∈ (dropGaps (Blank.trimList cs)).head?, isBlank c = false := by
    rwa [head?_dropGaps]
  have hback : ∀ c ∈ (dropGaps (Blank.trimList cs)).getLast?, isBlank c = false := by
    rwa [getLast?_dropGaps]
  refine ⟨hfront, hback, fun before bs after heq hbs => ?_⟩
  -- dropping the gap once more would make the text shorter, but the text stays as it is
  have hstays := normal_normal cs
  rw [Blank.trimList_eq_self hfront hback, heq, dropGaps_append, dropGaps_gap hbs] at hstays
  have hlength := congrArg List.length hstays
  have hbefore := (thins_dropGaps before).length_le
  have hafter := (thins_dropGaps after).length_le
  simp only [List.length_append, List.length_cons] at hlength
  exact List.eq_nil_of_length_eq_zero (by omega)

/-! ### Bodies -/

/-- The normal form of a body that is text. -/
theorem normalBody_of_xml {r : Request} (hr : BodyKind.ofRequest r = .xml) {s : String}
    (hs : r.body.text? = some s) : normalBody r = Bytes.ofText (xmlText s) := by
  rw [normalBody, hr]
  simp only [hs]

theorem normalBody_eq_iff_respaced {r r' : Request} (hr : BodyKind.ofRequest r = .xml)
    (hr' : BodyKind.ofRequest r' = .xml) {s t : String} (hs : r.body.text? = some s)
    (ht : r'.body.text? = some t) :
    normalBody r = normalBody r' ↔ Relation.EqvGen Respaced s.toList t.toList := by
  rw [normalBody_of_xml hr hs, normalBody_of_xml hr' ht, ← normal_eq_iff]
  constructor
  · intro h
    simpa [xmlText] using congrArg String.toList (Bytes.ofText_injective h)
  · intro h
    rw [xmlText, h, xmlText]

theorem normalBody_of_only {r : Request} (hr : BodyKind.ofRequest r = .xml) {s : String}
    (hs : r.body.text? = some s) (hblank : Only s.toList) : normalBody r = [] := by
  have htrim : Blank.trimList s.toList = [] := by
    have hnil := Blank.trimList_append hblank Blank.only_nil []
    rwa [List.append_nil, List.append_nil] at hnil
  rw [normalBody_of_xml hr hs, xmlText, htrim, dropGaps]
  rfl

/-- An empty body is a text of blanks, so it takes part as all others do. -/
theorem bodyPart_of_xml {r : Request} (hr : BodyKind.ofRequest r = .xml) :
    bodyPart r = normalBody r := by
  rw [bodyPart]
  by_cases hbody : r.body = []
  · rw [normalBody_of_only hr (s := "") (by rw [hbody]; rfl) (by exact Blank.only_nil)]
    simp
  · rw [if_neg (by simpa using hbody)]

/-- **Blanks in XML.** Let the body of a request be XML and text.

* The normal form of the body is text as well: the text of the body without some of its blanks,
  with none around it and none between a `>` and the next `<`.
* The normal form is its own.
* Other XML has the same normal form exactly if it differs, by any number of changes, in the
  blanks around it and in those between a `>` and the next `<`. If the requests differ in their
  bodies alone, then they have one key.
* A body of blanks has the key that no body has. -/
theorem normalBody_tight {r : Request} (hr : BodyKind.ofRequest r = .xml) {s : String}
    (hs : r.body.text? = some s) :
    (∃ n : String, normalBody r = Bytes.ofText n ∧ Tight n.toList ∧ Thins s.toList n.toList) ∧
    normalBody { r with body := normalBody r } = normalBody r ∧
    (∀ (r' : Request) (t : String), BodyKind.ofRequest r' = .xml → r'.body.text? = some t →
      (normalBody r = normalBody r' ↔ Relation.EqvGen Respaced s.toList t.toList) ∧
        (SameTarget r r' → Relation.EqvGen Respaced s.toList t.toList → r.key = r'.key)) ∧
    (Only s.toList → ∀ r', SameTarget r r' → r'.body = [] → r.key = r'.key) := by
  have htext : normalBody r = Bytes.ofText (xmlText s) := normalBody_of_xml hr hs
  have hnormal : (xmlText s).toList = dropGaps (Blank.trimList s.toList) := by
    rw [xmlText, String.toList_ofList]
  refine ⟨⟨xmlText s, htext, ?_, ?_⟩, ?_, fun r' t hr' ht => ?_, fun hblank r' hsame hempty => ?_⟩
  · rw [hnormal]
    exact tight_normal s.toList
  · rw [hnormal]
    exact thins_normal s.toList
  · have hkind : BodyKind.ofRequest { r with body := normalBody r } = .xml := hr
    -- the normal form is read as text again, and this differs from the body in blanks alone
    have hread : ({ r with body := normalBody r } : Request).body.text? = some (xmlText s) := by
      rw [htext, Bytes.text?_ofText]
    refine (normalBody_eq_iff_respaced hkind hr hread hs).2 ?_
    rw [hnormal]
    exact .symm _ _ (respaced_normal s.toList)
  · have hiff := normalBody_eq_iff_respaced hr hr' hs ht
    refine ⟨hiff, fun hsame hrespaced => hsame.key_eq ?_⟩
    rw [bodyPart_of_xml hr, bodyPart_of_xml hr', hiff.2 hrespaced]
  · refine hsame.key_eq ?_
    rw [bodyPart_of_xml hr, normalBody_of_only hr hs hblank, bodyPart, hempty]
    rfl

/-- A document of two elements. -/
def document (body : String) : Request where
  method := "POST"
  destination := "shop.example"
  path := "/cart"
  body := Bytes.ofText body
  headers := .ofPairs [("content-type", "text/xml; charset=utf-8")]

/-- A document that is laid out on two lines has the key of one that is not, and a document of
nothing but a line break has the key of an empty one. -/
theorem normalBody_tight_document :
    BodyKind.ofRequest (document "<a>\n <b/></a>\n") = .xml ∧
      (document "<a>\n <b/></a>\n").key = (document "<a><b/></a>").key ∧
      (document "\n").key = (document "").key := by
  have hkind : ∀ body, BodyKind.ofRequest (document body) = .xml := fun body => by
    have hxml : BodyKind.ofRequest (document "") = .xml := by decide +kernel
    exact hxml
  have htext : ∀ body, (document body).body.text? = some body := fun body => Bytes.text?_ofText body
  have hsame : ∀ body body', SameTarget (document body) (document body') :=
    fun _ _ => ⟨rfl, rfl, rfl, rfl⟩
  refine ⟨hkind _, ?_, ?_⟩
  · obtain ⟨-, -, hother, -⟩ := normalBody_tight (hkind "<a>\n <b/></a>\n") (htext _)
    refine (hother _ _ (hkind _) (htext _)).2 (hsame _ _) ?_
    -- the line break at the end, and what stands between the two tags
    have hend : Respaced ([] ++ ("<a>\n <b/></a>".toList ++ ['\n']))
        ([] ++ ("<a>\n <b/></a>".toList ++ [])) :=
      .around (by decide) (by decide) (by decide) (by decide)
    have hgap : Respaced ("<a".toList ++ '>' :: (['\n', ' '] ++ '<' :: "b/></a>".toList))
        ("<a".toList ++ '>' :: ([] ++ '<' :: "b/></a>".toList)) :=
      .between (by decide) (by decide)
    exact .trans _ _ _ (.rel _ _ hend) (.rel _ _ hgap)
  · exact (normalBody_tight (hkind "\n") (htext _)).2.2.2 (by decide) _ (hsame _ _) rfl

end Fingerprint

end ReplayProxy
