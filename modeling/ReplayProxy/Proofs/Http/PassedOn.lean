import ReplayProxy.Http.Message
import ReplayProxy.Proofs.Headers.Multimap

/-!
# Headers that are passed on

The headers of one connection stay behind (`Http.isHopByHop`), whichever way a message goes. All
others are passed on, one entry for each value. Names have no case, so it does not matter in which
spelling a name is asked for: a name that stays behind does so in every spelling, and of any other
name exactly its values are passed on, in their order (`Http.namedValues_passedOn`).

Whether something can be a header at all is no matter of case either (`Http.isName_congr`).
-/

namespace ReplayProxy.Http

/-! ### Names in any spelling -/

theorem isHopByHop_congr {name name' : String} (h : Ascii.lower name = Ascii.lower name') :
    isHopByHop name = isHopByHop name' := by
  simp only [isHopByHop, Ascii.sameLetters, h]

@[simp] theorem isTokenChar_toLower (c : Char) : isTokenChar c.toLower = isTokenChar c := by
  -- the marks that a token may hold are no letters
  have hmarks : ∀ k ∈ "!#$%&'*+-.^_\x60|~".toList, k.isAlpha = false :=
    Ascii.forall_mem_of_all (by decide)
  have hcontains : "!#$%&'*+-.^_\x60|~".toList.contains c.toLower =
      "!#$%&'*+-.^_\x60|~".toList.contains c := by
    rw [Bool.eq_iff_iff, List.contains_iff_mem, List.contains_iff_mem]
    constructor
    · intro h
      rwa [← (Ascii.toLower_eq_iff (hmarks _ h)).1 rfl] at h
    · intro h
      rwa [(Ascii.toLower_eq_iff (hmarks _ h)).2 rfl]
  rw [isTokenChar, isTokenChar, Ascii.isAlphanumeric_toLower, hcontains]

theorem isName_lower (name : String) : isName (Ascii.lower name) = isName name := by
  have hempty : (Ascii.lower name).isEmpty = name.isEmpty := by
    rw [Bool.eq_iff_iff, String.isEmpty_iff, String.isEmpty_iff, ← String.toList_inj,
      ← String.toList_inj, Ascii.toList_lower]
    exact List.map_eq_nil_iff
  have hall : (Ascii.lower name).toList.all isTokenChar = name.toList.all isTokenChar := by
    rw [Ascii.toList_lower, List.all_map]
    exact congrArg name.toList.all (funext isTokenChar_toLower)
  have hlength : (Ascii.lower name).length = name.length := by
    rw [← String.length_toList, ← String.length_toList, Ascii.toList_lower, List.length_map]
  rw [isName, isName, isToken, isToken, hempty, hall, hlength]

theorem isName_congr {name name' : String} (h : Ascii.lower name = Ascii.lower name') :
    isName name = isName name' := by
  rw [← isName_lower name, h, isName_lower]

/-! ### What is passed on -/

theorem mem_passedOn {headers : Headers} {name value : String} :
    (name, value) ∈ passedOn headers ↔
      ∃ values, headers[name]? = some values ∧ isHopByHop name = false ∧ value ∈ values := by
  unfold passedOn
  simp only [List.mem_flatMap, List.mem_filter, List.mem_map, Prod.mk.injEq, Prod.exists,
    Std.ExtTreeMap.mem_toList_iff_getElem?_eq_some, Bool.not_eq_true']
  constructor
  · rintro ⟨_, values, ⟨hget, hhop⟩, _, hvalue, rfl, rfl⟩
    exact ⟨values, hget, hhop, hvalue⟩
  · rintro ⟨values, hget, hhop, hvalue⟩
    exact ⟨name, values, ⟨hget, hhop⟩, value, hvalue, rfl, rfl⟩

/-- Of entries whose names are all different, those of the connection apart, all values of a name
are passed on. -/
theorem namedValues_entries {name : String} (hname : isHopByHop name = false)
    {entries : List (String × List String)}
    (hdistinct : entries.Pairwise fun a b => Ascii.lower a.1 ≠ Ascii.lower b.1) :
    namedValues name ((entries.filter fun entry => !isHopByHop entry.1).flatMap fun entry =>
        entry.2.map fun value => (entry.1, value)) =
      match entries.find? fun entry => Ascii.sameLetters entry.1 name with
      | some entry => entry.2
      | none => [] := by
  induction entries with
  | nil => rfl
  | cons entry entries ih =>
    obtain ⟨hhead, htail⟩ := List.pairwise_cons.1 hdistinct
    rw [List.filter_cons, List.find?_cons]
    cases hsame : Ascii.sameLetters entry.1 name with
    | true =>
      -- no entry after this one has the name
      have hlower := Ascii.sameLetters_iff.1 hsame
      have hnone : entries.find? (fun entry => Ascii.sameLetters entry.1 name) = none := by
        rw [List.find?_eq_none]
        intro e he hletters
        exact hhead e he (hlower.trans (Ascii.sameLetters_iff.1 hletters).symm)
      rw [if_pos (by simp [isHopByHop_congr hlower, hname]), List.flatMap_cons, namedValues_append,
        namedValues_entry, if_pos hsame, ih htail, hnone]
      simp
    | false =>
      rw [← ih htail]
      split
      · rw [List.flatMap_cons, namedValues_append, namedValues_entry, if_neg (by simp [hsame])]
        rfl
      · rfl

/-- The values of a name are passed on unless it belongs to the connection. -/
theorem namedValues_passedOn {headers : Headers} (h : headers.Canonical) {name : String}
    (hname : isHopByHop name = false) :
    namedValues name (passedOn headers) = headers.values name := by
  refine namedValues_entries hname (Std.ExtTreeMap.distinct_keys_toList.imp_of_mem ?_)
  intro a b ha hb hne hlower
  have hmem : ∀ entry ∈ headers.toList, Headers.canonicalName entry.1 = entry.1 := by
    intro entry hentry
    have hget := Std.ExtTreeMap.mem_toList_iff_getElem?_eq_some.1 hentry
    exact h entry.1 (Std.ExtTreeMap.mem_iff_isSome_getElem?.2 (by simp [hget]))
  have heq : a.1 = b.1 := by
    rw [← hmem a ha, ← hmem b hb]
    exact Headers.canonicalName_eq_iff.2 hlower
  exact hne (by simp [heq])

end ReplayProxy.Http
