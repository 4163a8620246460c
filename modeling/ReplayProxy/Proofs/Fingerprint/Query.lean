import ReplayProxy.Proofs.Fingerprint.Framing
import ReplayProxy.Proofs.Text.Order
import ReplayProxy.Proofs.Url.Paths

/-!
# Queries in fingerprints

A query takes part in the fingerprint with its segments sorted. This is a normal form of the
segments as a multiset: nothing but their order and the empty ones among them is lost. That it
loses no more rests on two facts. The segments of the normal form are the segments again, in their
order (`Fingerprint.segments_normalQuery`), because a segment holds no ampersand, so that it is
split where it was joined (`Fingerprint.segments_joined`). And sorted segments are a normal form of
their multiset (`Text.sort_eq_sort_iff`).

Main statement:

* `Fingerprint.normalQuery_identifies`: which queries have one normal form, and which changes to a
  query make a difference.
-/

namespace ReplayProxy.Fingerprint

/-! ### Pieces between ampersands -/

/-- What stands between ampersands holds none. -/
def Pieces (pieces : List String) : Prop := ∀ s ∈ pieces, '&' ∉ s.toList

instance : DecidablePred Pieces := fun pieces =>
  inferInstanceAs (Decidable (∀ s ∈ pieces, '&' ∉ s.toList))

/-- The query that is made of pieces. -/
def joined (pieces : List String) : String := String.intercalate "&" pieces

theorem toList_joined (pieces : List String) :
    (joined pieces).toList = ['&'].intercalate (pieces.map String.toList) :=
  String.toList_intercalate

/-- A query is split where it was joined, and the empty pieces are left out. -/
theorem segments_joined {pieces : List String} (h : Pieces pieces) :
    segments (joined pieces) = pieces.filter fun s => s ≠ "" := by
  have hempty : ∀ s : String, s.toList.isEmpty = decide (s = "") := fun s => by
    rw [Bool.eq_iff_iff, List.isEmpty_iff, decide_eq_true_iff, ← String.toList_inj]
    rfl
  cases pieces with
  | nil => rfl
  | cons s rest =>
    have hsplit : (joined (s :: rest)).toList.splitOn '&' = (s :: rest).map String.toList := by
      rw [toList_joined]
      refine List.splitOn_intercalate '&' (fun cs hcs => ?_) (by simp)
      obtain ⟨t, ht, rfl⟩ := List.mem_map.1 hcs
      exact h t ht
    rw [segments, hsplit, List.filter_map, List.map_map]
    simp [Function.comp_def, hempty]

/-- Every query is made of pieces. -/
theorem exists_pieces (query : String) : ∃ pieces, Pieces pieces ∧ joined pieces = query := by
  refine ⟨(query.toList.splitOn '&').map String.ofList, ?_, ?_⟩
  · intro s hs
    obtain ⟨cs, hcs, rfl⟩ := List.mem_map.1 hs
    rw [String.toList_ofList]
    exact fun hmark => (Url.mem_of_mem_splitOn hcs _ hmark).2 rfl
  · rw [← String.toList_inj, toList_joined, List.map_map]
    simp [Function.comp_def, List.intercalate_splitOn]

theorem pieces_segments (query : String) : Pieces (segments query) := by
  obtain ⟨pieces, hpieces, rfl⟩ := exists_pieces query
  rw [segments_joined hpieces]
  exact fun s hs => hpieces s (List.mem_filter.1 hs).1

/-- One among the pieces is a piece, and so are the others. -/
theorem pieces_insert_iff {before after : List String} {s : String} :
    Pieces (before ++ s :: after) ↔ Pieces [s] ∧ Pieces (before ++ after) := by
  rw [Pieces, Pieces, Pieces, List.forall_mem_append, List.forall_mem_cons,
    List.forall_mem_singleton, List.forall_mem_append]
  exact and_left_comm

/-! ### The normal form -/

/-- The normal form has the same segments, in their order. -/
theorem segments_normalQuery (query : String) :
    segments (normalQuery query) = (segments query).mergeSort fun s t => decide (s ≤ t) := by
  have hpieces : Pieces ((segments query).mergeSort fun s t => decide (s ≤ t)) := fun s hs =>
    pieces_segments query s (List.mem_mergeSort.1 hs)
  refine (segments_joined hpieces).trans (List.filter_eq_self.2 fun s hs => ?_)
  -- no segment is empty
  rw [List.mem_mergeSort, segments, List.mem_map] at hs
  obtain ⟨cs, hcs, rfl⟩ := hs
  simpa using (List.mem_filter.1 hcs).2

/-- **Queries have one normal form if and only if they have the same segments, each as often.** -/
theorem normalQuery_eq_iff {q q' : String} :
    normalQuery q = normalQuery q' ↔ (segments q).Perm (segments q') := by
  rw [← Text.sort_eq_sort_iff]
  constructor
  · intro h
    -- the sorted segments can be read off the normal form
    rw [← segments_normalQuery, h, segments_normalQuery]
  · intro h
    rw [normalQuery, h, normalQuery]

/-- Queries in which a piece that is not empty stands more or less often are told apart. -/
theorem normalQuery_ne_of_count {pieces pieces' : List String} (h : Pieces pieces)
    (h' : Pieces pieces') {s : String} (hs : s ≠ "") (hcount : pieces.count s ≠ pieces'.count s) :
    normalQuery (joined pieces) ≠ normalQuery (joined pieces') := by
  rw [ne_eq, normalQuery_eq_iff, segments_joined h, segments_joined h']
  intro hperm
  -- leaving out the empty pieces does not change how often this one stands there
  have hsame := hperm.count_eq s
  rw [List.count_filter (by simpa using hs), List.count_filter (by simpa using hs)] at hsame
  exact hcount hsame

theorem normalQuery_normalQuery (query : String) :
    normalQuery (normalQuery query) = normalQuery query := by
  rw [normalQuery_eq_iff, segments_normalQuery]
  exact List.mergeSort_perm _ _

/-! ### Changes to a query -/

section Changes

variable (r : Request) {before after : List String} {s : String}

/-- Requests that differ in their queries have one key if the queries have one normal form. -/
theorem key_of_normalQuery_eq {q q' : String} (h : normalQuery q = normalQuery q') :
    Request.key { r with query := q } = Request.key { r with query := q' } := by
  have hparts : parts { r with query := q } = parts { r with query := q' } :=
    parts_eq_iff.2 ⟨rfl, rfl, rfl, h, rfl⟩
  rw [Request.key, Request.key, Request.fingerprint, Request.fingerprint, preimage, preimage,
    hparts]

theorem key_of_perm {pieces pieces' : List String} (h : Pieces pieces)
    (hperm : pieces.Perm pieces') :
    Request.key { r with query := joined pieces } =
      Request.key { r with query := joined pieces' } := by
  have h' : Pieces pieces' := fun s hs => h s (hperm.mem_iff.2 hs)
  refine key_of_normalQuery_eq r (normalQuery_eq_iff.2 ?_)
  rw [segments_joined h, segments_joined h']
  exact hperm.filter _

theorem key_of_empty_piece (h : Pieces (before ++ after)) :
    Request.key { r with query := joined (before ++ "" :: after) } =
      Request.key { r with query := joined (before ++ after) } := by
  have hadded : Pieces (before ++ "" :: after) := pieces_insert_iff.2 ⟨by simp [Pieces], h⟩
  refine key_of_normalQuery_eq r (normalQuery_eq_iff.2 ?_)
  rw [segments_joined hadded, segments_joined h]
  simp

/-- Without a piece that is not empty the normal form is another. -/
theorem normalQuery_ne_of_dropped (h : Pieces (before ++ s :: after)) (hs : s ≠ "") :
    normalQuery (joined (before ++ s :: after)) ≠ normalQuery (joined (before ++ after)) := by
  refine normalQuery_ne_of_count h (pieces_insert_iff.1 h).2 hs ?_
  rw [List.count_append, List.count_append, List.count_cons_self]
  omega

theorem normalQuery_ne_of_edited (h : Pieces (before ++ s :: after)) (hs : s ≠ "") {s' : String}
    (h' : Pieces [s']) (hne : s' ≠ s) :
    normalQuery (joined (before ++ s :: after)) ≠
      normalQuery (joined (before ++ s' :: after)) := by
  have hedited : Pieces (before ++ s' :: after) :=
    pieces_insert_iff.2 ⟨h', (pieces_insert_iff.1 h).2⟩
  -- the old piece stands there once less than before
  refine normalQuery_ne_of_count h hedited hs ?_
  rw [List.count_append, List.count_append, List.count_cons_self, List.count_cons_of_ne hne]
  omega

end Changes

/-- **A fingerprint sees a query as the multiset of its segments.**

* Two queries have one normal form exactly when their segments are the same, each as often. What
  is hashed for the query is equal exactly then, and the normal form is its own.
* The segments are the pieces between ampersands that are not empty, and every query is made of
  pieces.
* So the pieces may be put in another order, and empty ones be added or left out, and the key
  stays.
* And if a piece that is not empty is added, left out or exchanged for another one, the normal form
  is another. -/
theorem normalQuery_identifies :
    (∀ q q', normalQuery q = normalQuery q' ↔ (segments q).Perm (segments q')) ∧
    (∀ (r : Request) (q q' : String), (parts { r with query := q })[3]? =
      (parts { r with query := q' })[3]? ↔ (segments q).Perm (segments q')) ∧
    (∀ q, normalQuery (normalQuery q) = normalQuery q) ∧
    (∀ pieces, Pieces pieces → segments (joined pieces) = pieces.filter fun s => s ≠ "") ∧
    (∀ q, ∃ pieces, Pieces pieces ∧ joined pieces = q) ∧
    (∀ (r : Request) (pieces pieces' : List String), Pieces pieces → pieces.Perm pieces' →
      Request.key { r with query := joined pieces } =
        Request.key { r with query := joined pieces' }) ∧
    (∀ (r : Request) (before after : List String), Pieces (before ++ after) →
      Request.key { r with query := joined (before ++ "" :: after) } =
        Request.key { r with query := joined (before ++ after) }) ∧
    ∀ (before after : List String) (s : String), Pieces (before ++ s :: after) → s ≠ "" →
      normalQuery (joined (before ++ s :: after)) ≠ normalQuery (joined (before ++ after)) ∧
        ∀ s', Pieces [s'] → s' ≠ s →
          normalQuery (joined (before ++ s :: after)) ≠
            normalQuery (joined (before ++ s' :: after)) := by
  refine ⟨fun _ _ => normalQuery_eq_iff, fun r q q' => ?_, normalQuery_normalQuery,
    fun _ => segments_joined, exists_pieces, fun r _ _ => key_of_perm r,
    fun r _ _ => key_of_empty_piece r, fun before after s h hs =>
      ⟨normalQuery_ne_of_dropped h hs, fun _ => normalQuery_ne_of_edited h hs⟩⟩
  -- the query is the fourth part of what is hashed
  simp only [parts, List.getElem?_cons_succ, List.getElem?_cons_zero, Option.some.injEq]
  rw [← normalQuery_eq_iff]
  exact ⟨Bytes.ofText_injective, congrArg Bytes.ofText⟩

/-- The query of a purchase may be written in another order and without its empty piece, but neither
twice the same nor with another value. -/
theorem normalQuery_identifies_purchase :
    Request.key { purchase with query := joined ["b=2", "", "a=1"] } =
        Request.key { purchase with query := joined ["a=1", "b=2"] } ∧
      normalQuery (joined ["b=2", "a=1", "a=1"]) ≠ normalQuery (joined ["b=2", "a=1"]) ∧
        normalQuery (joined ["b=2", "a=1"]) ≠ normalQuery (joined ["b=3", "a=1"]) := by
  obtain ⟨-, -, -, -, -, hperm, hempty, hedit⟩ := normalQuery_identifies
  refine ⟨?_, (hedit ["b=2", "a=1"] [] "a=1" (by decide) (by decide)).1,
    (hedit [] ["a=1"] "b=2" (by decide) (by decide)).2 "b=3" (by decide) (by decide)⟩
  exact (hempty purchase ["b=2"] ["a=1"] (by decide)).trans
    (hperm purchase ["b=2", "a=1"] ["a=1", "b=2"] (by decide) (.swap _ _ _))

end ReplayProxy.Fingerprint
