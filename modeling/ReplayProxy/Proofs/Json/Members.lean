import ReplayProxy.Json.Value

/-!
# Members of objects

The reader of values sorts the members of an object by their names and keeps the last one of each
name. A list of members that is sorted in this way is known by what it holds under each name
(`Sorted.ext`), so all that has to be said about the sorting is that the result is sorted
(`sorted_sortMembers`) and what it holds: what the members as they were written hold, counted from
the back (`lookup_sortMembers`). It follows that members that are sorted already stay as they are,
and that the order of members with different names does not matter (`sortMembers_exchange`).
-/

namespace ReplayProxy.Json.Value

variable {α : Type}

/-- The names of the members increase. -/
def Sorted (ms : List (String × α)) : Prop := ms.Pairwise fun m n => m.1 < n.1

/-! ### What members hold -/

theorem lookup_cons_of_ne {name k : String} (h : k ≠ name) (v : α) (ms : List (String × α)) :
    ((name, v) :: ms).lookup k = ms.lookup k := by
  rw [List.lookup_cons, beq_false_of_ne h]

theorem mem_of_lookup {ms : List (String × α)} {name : String} {v : α}
    (h : ms.lookup name = some v) : (name, v) ∈ ms := by
  obtain ⟨before, after, rfl, -⟩ := List.lookup_eq_some_iff.1 h
  simp

/-- Among distinct names a member is found. -/
theorem lookup_of_mem {ms : List (String × α)} (hnodup : (ms.map Prod.fst).Nodup)
    {name : String} {v : α} (h : (name, v) ∈ ms) : ms.lookup name = some v := by
  induction ms with
  | nil => cases h
  | cons m ms ih =>
    obtain ⟨n, w⟩ := m
    rw [List.map_cons, List.nodup_cons] at hnodup
    rcases List.mem_cons.1 h with heq | hmem
    · cases heq
      exact List.lookup_cons_self
    · -- otherwise the name would come twice
      have hne : name ≠ n := by
        rintro rfl
        exact hnodup.1 (List.mem_map.2 ⟨_, hmem, rfl⟩)
      rw [lookup_cons_of_ne hne, ih hnodup.2 hmem]

/-- Members in another order hold the same, if their names are distinct. -/
theorem lookup_perm {ms ns : List (String × α)} (hperm : ms.Perm ns)
    (hnodup : (ms.map Prod.fst).Nodup) (name : String) : ms.lookup name = ns.lookup name := by
  have hnodup' : (ns.map Prod.fst).Nodup := (hperm.map Prod.fst).nodup_iff.1 hnodup
  -- to be found is to be a member, in either order
  refine Option.ext fun v => ⟨fun h => ?_, fun h => ?_⟩
  · exact lookup_of_mem hnodup' (hperm.mem_iff.1 (mem_of_lookup h))
  · exact lookup_of_mem hnodup (hperm.mem_iff.2 (mem_of_lookup h))

/-! ### Sorted members -/

theorem Sorted.nodup {ms : List (String × α)} (h : Sorted ms) : (ms.map Prod.fst).Nodup := by
  refine List.pairwise_map.2 (h.imp fun {m n} hlt heq => ?_)
  rw [heq] at hlt
  exact String.lt_irrefl _ hlt

/-- Below the first name nothing is held. -/
theorem Sorted.lookup_eq_none {name : String} {v : α} {ms : List (String × α)}
    (h : Sorted ((name, v) :: ms)) {k : String} (hk : k < name ∨ k = name) :
    ms.lookup k = none := by
  refine List.lookup_eq_none_iff.2 fun m hm => ?_
  have hlt : name < m.1 := (List.pairwise_cons.1 h).1 m hm
  refine bne_iff_ne.2 ?_
  rintro rfl
  rcases hk with hk | hk
  · exact String.lt_asymm hk hlt
  · exact String.lt_irrefl _ (hk ▸ hlt)

/-- **Sorted members are known by what they hold.** -/
theorem Sorted.ext {ms ns : List (String × α)} (hms : Sorted ms) (hns : Sorted ns)
    (h : ∀ name, ms.lookup name = ns.lookup name) : ms = ns := by
  induction ms generalizing ns with
  | nil =>
    cases ns with
    | nil => rfl
    | cons n ns => cases (h n.1).trans List.lookup_cons_self
  | cons m ms ih =>
    obtain ⟨name, v⟩ := m
    cases ns with
    | nil => cases List.lookup_cons_self.symm.trans (h name)
    | cons n ns =>
      obtain ⟨name', v'⟩ := n
      -- the lesser of the two first names is held by both lists, so it is the first of both
      have hname : name = name' := by
        rcases Std.lt_trichotomy name name' with hlt | heq | hlt
        · have hheld := h name
          have hne : name ≠ name' := fun heq => String.lt_irrefl _ (heq ▸ hlt)
          rw [List.lookup_cons_self, lookup_cons_of_ne hne, hns.lookup_eq_none (.inl hlt)] at hheld
          cases hheld
        · exact heq
        · have hheld := h name'
          have hne : name' ≠ name := fun heq => String.lt_irrefl _ (heq ▸ hlt)
          rw [List.lookup_cons_self, lookup_cons_of_ne hne, hms.lookup_eq_none (.inl hlt)] at hheld
          cases hheld
      subst hname
      have hvalue := h name
      rw [List.lookup_cons_self, List.lookup_cons_self] at hvalue
      cases hvalue
      refine congrArg _ (ih (List.pairwise_cons.1 hms).2 (List.pairwise_cons.1 hns).2 fun k => ?_)
      -- the first name is not among the rest of either list, and any other is looked up there
      by_cases hk : k = name
      · rw [hms.lookup_eq_none (.inr hk), hns.lookup_eq_none (.inr hk)]
      · have hrest := h k
        rwa [lookup_cons_of_ne hk, lookup_cons_of_ne hk] at hrest

/-! ### Sorting -/

theorem lookup_insertMember (name : String) (v : α) (ms : List (String × α)) (k : String) :
    (insertMember name v ms).lookup k = if k = name then some v else ms.lookup k := by
  induction ms with
  | nil =>
    by_cases hk : k = name
    · rw [insertMember, hk, List.lookup_cons_self, if_pos rfl]
    · rw [insertMember, lookup_cons_of_ne hk, if_neg hk]
  | cons m ms ih =>
    obtain ⟨n, w⟩ := m
    rw [insertMember]
    -- under the name there is the new value, and under any other one what was there before
    by_cases hk : k = name
    · subst hk
      rw [if_pos rfl] at ih ⊢
      split
      · exact List.lookup_cons_self
      · split
        · exact List.lookup_cons_self
        · next hne => rw [lookup_cons_of_ne hne, ih]
    · rw [if_neg hk] at ih ⊢
      split
      · rw [lookup_cons_of_ne hk]
      · split
        · next heq =>
          rw [lookup_cons_of_ne hk, lookup_cons_of_ne (heq ▸ hk)]
        · by_cases hn : k = n
          · rw [hn, List.lookup_cons_self, List.lookup_cons_self]
          · rw [lookup_cons_of_ne hn, lookup_cons_of_ne hn, ih]

theorem mem_insertMember {name : String} {v : α} {ms : List (String × α)} {m : String × α}
    (h : m ∈ insertMember name v ms) : m = (name, v) ∨ m ∈ ms := by
  induction ms with
  | nil => exact .inl (List.mem_singleton.1 h)
  | cons n ms ih =>
    rw [insertMember] at h
    split at h
    · exact List.mem_cons.1 h
    · split at h
      · rcases List.mem_cons.1 h with h | h
        · exact .inl h
        · exact .inr (List.mem_cons_of_mem _ h)
      · rcases List.mem_cons.1 h with h | h
        · exact .inr (h ▸ List.mem_cons_self)
        · exact (ih h).imp id (List.mem_cons_of_mem _)

theorem sorted_insertMember (name : String) (v : α) {ms : List (String × α)} (h : Sorted ms) :
    Sorted (insertMember name v ms) := by
  induction ms with
  | nil => exact List.pairwise_singleton _ _
  | cons m ms ih =>
    obtain ⟨n, w⟩ := m
    obtain ⟨hhead, htail⟩ := List.pairwise_cons.1 h
    rw [insertMember]
    -- the member goes in front of the first greater name, or replaces the one of its name
    split
    · next hlt =>
      refine List.pairwise_cons.2 ⟨fun m hm => ?_, h⟩
      rcases List.mem_cons.1 hm with rfl | hm
      · exact hlt
      · exact String.lt_trans hlt (hhead m hm)
    · next hlt =>
      split
      · next heq =>
        subst heq
        exact List.pairwise_cons.2 ⟨hhead, htail⟩
      · next hne =>
        refine List.pairwise_cons.2 ⟨fun m hm => ?_, ih htail⟩
        rcases mem_insertMember hm with rfl | hm
        · rcases Std.lt_trichotomy n name with hlt' | heq | hlt'
          · exact hlt'
          · exact absurd heq.symm hne
          · exact absurd hlt' hlt
        · exact hhead m hm

theorem sorted_sortMembers (ms : List (String × α)) : Sorted (sortMembers ms) := by
  -- the members are inserted into sorted ones, whatever these are
  have hfold : ∀ sorted : List (String × α), Sorted sorted →
      Sorted (ms.foldl (fun sorted m => insertMember m.1 m.2 sorted) sorted) := by
    induction ms with
    | nil => exact fun _ h => h
    | cons m ms ih => exact fun sorted h => ih _ (sorted_insertMember m.1 m.2 h)
  exact hfold [] List.Pairwise.nil

theorem mem_sortMembers {ms : List (String × α)} {m : String × α} (h : m ∈ sortMembers ms) :
    m ∈ ms := by
  -- the members are inserted one after the other
  have hfold : ∀ sorted : List (String × α),
      m ∈ ms.foldl (fun sorted m => insertMember m.1 m.2 sorted) sorted → m ∈ ms ∨ m ∈ sorted := by
    clear h
    induction ms with
    | nil => exact fun _ h => .inr h
    | cons n ms ih =>
      intro sorted h
      rcases ih _ h with h | h
      · exact .inl (List.mem_cons_of_mem _ h)
      · rcases mem_insertMember h with rfl | h
        · exact .inl List.mem_cons_self
        · exact .inr h
  exact (hfold [] h).resolve_right (List.not_mem_nil)

/-- **The last member of a name wins.** -/
theorem lookup_sortMembers (ms : List (String × α)) (name : String) :
    (sortMembers ms).lookup name = ms.reverse.lookup name := by
  have hfold : ∀ sorted : List (String × α),
      (ms.foldl (fun sorted m => insertMember m.1 m.2 sorted) sorted).lookup name =
        (ms.reverse.lookup name).or (sorted.lookup name) := by
    induction ms with
    | nil => exact fun _ => rfl
    | cons m ms ih =>
      intro sorted
      obtain ⟨n, w⟩ := m
      rw [List.foldl_cons, ih, List.reverse_cons, List.lookup_append, lookup_insertMember]
      -- a later member of the name was inserted after this one
      cases ms.reverse.lookup name with
      | some v => rfl
      | none =>
        by_cases hname : name = n
        · rw [if_pos hname, hname, List.lookup_cons_self]
          rfl
        · rw [if_neg hname, lookup_cons_of_ne hname]
          rfl
  rw [sortMembers, hfold]
  cases ms.reverse.lookup name <;> rfl

/-- Distinct names may as well be looked up from the front. -/
theorem lookup_reverse {ms : List (String × α)} (hnodup : (ms.map Prod.fst).Nodup)
    (name : String) : ms.reverse.lookup name = ms.lookup name :=
  (lookup_perm (List.reverse_perm ms).symm hnodup name).symm

/-- Members that are sorted stay as they are. -/
theorem sortMembers_of_sorted {ms : List (String × α)} (h : Sorted ms) : sortMembers ms = ms :=
  (sorted_sortMembers ms).ext h fun name => by
    rw [lookup_sortMembers, lookup_reverse h.nodup]

/-- Two members with different names are held alike in either order. -/
theorem lookup_pair_comm {m n : String × α} (hne : m.1 ≠ n.1) (name : String) :
    [m, n].lookup name = [n, m].lookup name := by
  obtain ⟨k, v⟩ := m
  obtain ⟨l, w⟩ := n
  -- one of the two names at most is looked up
  by_cases hk : name = k
  · rw [hk, List.lookup_cons_self, lookup_cons_of_ne hne, List.lookup_cons_self]
  · by_cases hl : name = l
    · rw [hl, List.lookup_cons_self, lookup_cons_of_ne hne.symm, List.lookup_cons_self]
    · rw [lookup_cons_of_ne hk, lookup_cons_of_ne hl, lookup_cons_of_ne hl, lookup_cons_of_ne hk]

/-- Neighbours with different names may change places, whatever is written around them. -/
theorem sortMembers_exchange {m n : String × α} (hne : m.1 ≠ n.1)
    (before after : List (String × α)) :
    sortMembers (before ++ n :: m :: after) = sortMembers (before ++ m :: n :: after) := by
  refine (sorted_sortMembers _).ext (sorted_sortMembers _) fun name => ?_
  have hreverse : ∀ a b : String × α, (before ++ a :: b :: after).reverse =
      after.reverse ++ ([b, a] ++ before.reverse) := fun a b => by simp
  rw [lookup_sortMembers, lookup_sortMembers, hreverse, hreverse, List.lookup_append,
    List.lookup_append, List.lookup_append, List.lookup_append, lookup_pair_comm hne]

end ReplayProxy.Json.Value
