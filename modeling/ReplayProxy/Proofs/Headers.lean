import ReplayProxy.Headers
import ReplayProxy.Proofs.Text.Letters

/-!
# Canonical headers

Headers are *canonical* (`Headers.Canonical`) when every name in them is its own canonical
spelling. All headers that the proxy makes are: what is built by adding values
(`Canonical.add`, `canonical_ofPairs`) and what is read from elsewhere
(`canonical_canonical`). Putting canonical headers into canonical form changes nothing
(`canonical_eq_self`), which is what lets recorded headers go out and come back unchanged.
-/

namespace ReplayProxy.Headers

/-! ### Canonical names -/

/-- Spelling characters a second time changes nothing. -/
theorem canonicalChars_canonicalChars (first : Bool) (cs : List Char) :
    canonicalChars first (canonicalChars first cs) = canonicalChars first cs := by
  induction cs generalizing first with
  | nil => rfl
  | cons c cs ih =>
    -- a hyphen makes the next character a first one, and no other character becomes a hyphen
    by_cases hc : c = '-'
    · simp [canonicalChars, hc, ih]
    · cases first <;> simp [canonicalChars, hc, ih]

@[simp] theorem canonicalName_canonicalName (name : String) :
    canonicalName (canonicalName name) = canonicalName name := by
  simp [canonicalName, canonicalChars_canonicalChars]

theorem canonicalChars_map_toLower (first : Bool) (cs : List Char) :
    canonicalChars first (cs.map Char.toLower) = canonicalChars first cs := by
  induction cs generalizing first with
  | nil => rfl
  | cons c cs ih =>
    by_cases hc : c = '-'
    · simp [canonicalChars, hc, ih]
    · cases first <;> simp [canonicalChars, hc, ih]

theorem map_toLower_canonicalChars (first : Bool) (cs : List Char) :
    (canonicalChars first cs).map Char.toLower = cs.map Char.toLower := by
  induction cs generalizing first with
  | nil => rfl
  | cons c cs ih =>
    by_cases hc : c = '-'
    · simp [canonicalChars, hc, ih]
    · cases first <;> simp [canonicalChars, hc, ih]

/-- Two names have one canonical spelling exactly when they agree up to the case of their
letters. -/
theorem canonicalName_eq_iff {name name' : String} :
    canonicalName name = canonicalName name' ↔ Ascii.lower name = Ascii.lower name' := by
  constructor
  · -- small letters can be read off a canonical spelling
    intro h
    have hlower := congrArg Ascii.lower h
    simpa [canonicalName, ← String.toList_inj, map_toLower_canonicalChars] using hlower
  · intro h
    have hlower : name.toList.map Char.toLower = name'.toList.map Char.toLower := by
      simpa [← String.toList_inj] using h
    rw [canonicalName, canonicalName, ← canonicalChars_map_toLower, hlower,
      canonicalChars_map_toLower]

/-- Every name is its own canonical spelling. -/
def Canonical (headers : Headers) : Prop := ∀ name ∈ headers, canonicalName name = name

theorem canonical_empty : Canonical ∅ := by
  intro name h
  simp at h

/-! ### What keeps headers canonical -/

theorem mem_addAll {headers : Headers} {name k : String} {vs : List String} :
    k ∈ headers.addAll name vs ↔ canonicalName name = k ∨ k ∈ headers := by
  rw [Std.ExtTreeMap.mem_iff_isSome_getElem?, Std.ExtTreeMap.mem_iff_isSome_getElem?,
    getElem?_addAll]
  split <;> simp_all

theorem Canonical.addAll {headers : Headers} (h : headers.Canonical) (name : String)
    (vs : List String) : (headers.addAll name vs).Canonical := by
  intro k hk
  rcases mem_addAll.1 hk with rfl | hk
  · exact canonicalName_canonicalName name
  · exact h k hk

theorem Canonical.add {headers : Headers} (h : headers.Canonical) (name value : String) :
    (headers.add name value).Canonical := h.addAll name [value]

theorem Canonical.erase {headers : Headers} (h : headers.Canonical) (name : String) :
    Canonical (Std.ExtTreeMap.erase headers name) := by
  intro k hk
  exact h k (Std.ExtTreeMap.mem_of_mem_erase hk)

/-- Steps that keep headers canonical may be taken one after the other. -/
theorem Canonical.foldl {step : Headers → α → Headers}
    (hstep : ∀ headers a, Canonical headers → (step headers a).Canonical) {headers : Headers}
    (h : headers.Canonical) (entries : List α) : (entries.foldl step headers).Canonical := by
  induction entries generalizing headers with
  | nil => exact h
  | cons entry entries ih => exact ih (hstep headers entry h)

/-- Headers that are built by adding values are canonical. -/
theorem canonical_ofPairs (entries : List (String × String)) : (ofPairs entries).Canonical :=
  canonical_empty.foldl (fun _ entry h => h.add entry.1 entry.2) entries

/-- The canonical form of any headers is canonical. -/
theorem canonical_canonical (headers : Headers) : headers.canonical.Canonical :=
  canonical_empty.foldl (fun _ entry h => h.addAll entry.1 entry.2) headers.toList

/-! ### Values under a name -/

/-- In canonical headers, only the canonical spelling of a name agrees with it. -/
theorem Canonical.sameLetters_iff {headers : Headers} (h : headers.Canonical) {k : String}
    (hk : k ∈ headers) (name : String) :
    Ascii.sameLetters k name = true ↔ k = canonicalName name := by
  rw [Ascii.sameLetters_iff, ← canonicalName_eq_iff, h k hk]

/-- So the values of a name are those of its canonical spelling. -/
theorem Canonical.values {headers : Headers} (h : headers.Canonical) (name : String) :
    headers.values name = (headers[canonicalName name]?).getD [] := by
  unfold Headers.values
  -- the look-up takes the first name that agrees, and only one does
  cases hfind : headers.toList.find? fun entry => Ascii.sameLetters entry.1 name with
  | some entry =>
    have hentry := Std.ExtTreeMap.mem_toList_iff_getElem?_eq_some.1
      (List.mem_of_find?_eq_some hfind)
    have hmem : entry.1 ∈ headers := Std.ExtTreeMap.mem_iff_isSome_getElem?.2 (by simp [hentry])
    have hsame : Ascii.sameLetters entry.1 name = true := by
      simpa using List.find?_some hfind
    rw [← (h.sameLetters_iff hmem name).1 hsame, hentry]
    rfl
  | none =>
    cases hvalues : headers[canonicalName name]? with
    | none => rfl
    | some vs =>
      -- such an entry would have been found
      have hmem := Std.ExtTreeMap.mem_iff_isSome_getElem?.2 (Option.isSome_of_eq_some hvalues)
      have hnot := List.find?_eq_none.1 hfind _
        (Std.ExtTreeMap.mem_toList_iff_getElem?_eq_some.2 hvalues)
      exact absurd ((h.sameLetters_iff hmem name).2 rfl) hnot

/-- Values that are added under a name come after those that were there, and under another name
nothing is added. -/
theorem Canonical.values_addAll {headers : Headers} (h : headers.Canonical) (name : String)
    (vs : List String) (other : String) :
    (headers.addAll name vs).values other =
      headers.values other ++ if Ascii.sameLetters name other then vs else [] := by
  rw [(h.addAll name vs).values, h.values, getElem?_addAll]
  -- the name is looked up in its canonical spelling, where values are appended to what is there
  by_cases hsame : canonicalName name = canonicalName other
  · rw [if_pos hsame, if_pos (Ascii.sameLetters_iff.2 (canonicalName_eq_iff.1 hsame)),
      Option.getD_some]
  · rw [if_neg hsame, if_neg fun hletters =>
      hsame (canonicalName_eq_iff.2 (Ascii.sameLetters_iff.1 hletters)), List.append_nil]

/-- A value that is added comes after those that were there. -/
theorem Canonical.values_add {headers : Headers} (h : headers.Canonical) (name value : String) :
    (headers.add name value).values name = headers.values name ++ [value] := by
  rw [Headers.add, h.values_addAll, if_pos (Ascii.sameLetters_iff.2 rfl)]

/-- Under another name nothing is added. -/
theorem Canonical.values_add_of_ne {headers : Headers} (h : headers.Canonical)
    {name other : String} (hne : Ascii.sameLetters name other = false) (value : String) :
    (headers.add name value).values other = headers.values other := by
  rw [Headers.add, h.values_addAll, hne]
  exact List.append_nil _

/-- Canonical headers lose all values of a name with its canonical spelling, and no others. -/
theorem Canonical.values_erase {headers : Headers} (h : headers.Canonical) {name : String}
    (hname : canonicalName name = name) (other : String) :
    Headers.values (Std.ExtTreeMap.erase headers name) other =
      if Ascii.sameLetters name other then [] else headers.values other := by
  have hsame : Ascii.sameLetters name other = true ↔ name = canonicalName other := by
    rw [Ascii.sameLetters_iff, ← canonicalName_eq_iff, hname]
  rw [(h.erase name).values, h.values, Std.ExtTreeMap.getElem?_erase]
  by_cases heq : name = canonicalName other
  · simp [hsame.2 heq, ← heq]
  · have hne : Ascii.sameLetters name other = false := Bool.eq_false_iff.2 (mt hsame.1 heq)
    simp [hne, heq]

/-! ### Canonical headers stay as they are -/

/-- Inserting all entries of headers one after the other makes them again. -/
theorem foldl_insert_toList (headers : Headers) :
    headers.toList.foldl (fun out entry => out.insert entry.1 entry.2) (∅ : Headers) =
      headers := by
  rw [← Std.ExtTreeMap.ofList_eq_foldl]
  -- each name is looked up on both sides; the list decides by its one entry with the name
  ext name vs
  by_cases h : name ∈ headers
  · obtain ⟨ws, hws⟩ := Option.isSome_iff_exists.1 (Std.ExtTreeMap.mem_iff_isSome_getElem?.1 h)
    have hmem := Std.ExtTreeMap.mem_toList_iff_getElem?_eq_some.2 hws
    rw [Std.ExtTreeMap.getElem?_ofList_of_mem Std.ReflCmp.compare_self
      Std.ExtTreeMap.distinct_keys_toList hmem, hws]
  · have hkeys : (headers.toList.map Prod.fst).contains name = false := by
      rw [Std.ExtTreeMap.map_fst_toList_eq_keys]
      simpa using h
    rw [Std.ExtTreeMap.getElem?_ofList_of_contains_eq_false hkeys,
      Std.ExtTreeMap.getElem?_eq_none h]

/-- Adding values under a new name that is canonical inserts them. -/
theorem addAll_eq_insert {headers : Headers} {name : String} (hname : canonicalName name = name)
    (hnew : name ∉ headers) (vs : List String) :
    headers.addAll name vs = headers.insert name vs := by
  refine Std.ExtTreeMap.ext_getElem? fun k => ?_
  rw [getElem?_addAll, Std.ExtTreeMap.getElem?_insert, hname]
  by_cases hk : name = k
  · subst hk
    simp [Std.ExtTreeMap.getElem?_eq_none hnew]
  · simp [hk]

/-- The entries of canonical headers are added as they would be inserted, since no two of
them have one name. -/
theorem foldl_addAll_eq_foldl_insert (entries : List (String × List String)) (out : Headers)
    (hcanonical : ∀ entry ∈ entries, canonicalName entry.1 = entry.1)
    (hdistinct : entries.Pairwise fun a b => a.1 ≠ b.1)
    (hnew : ∀ entry ∈ entries, entry.1 ∉ out) :
    entries.foldl (fun out entry => out.addAll entry.1 entry.2) out =
      entries.foldl (fun out entry => out.insert entry.1 entry.2) out := by
  induction entries generalizing out with
  | nil => rfl
  | cons entry entries ih =>
    obtain ⟨hhead, htail⟩ := List.pairwise_cons.1 hdistinct
    rw [List.foldl_cons, List.foldl_cons,
      addAll_eq_insert (hcanonical entry (by simp)) (hnew entry (by simp))]
    -- the entry that was inserted has another name than all that follow
    refine ih _ (fun e he => hcanonical e (by simp [he])) htail fun e he => ?_
    have hne := hhead e he
    have hout := hnew e (by simp [he])
    simp [hne, hout]

/-- **The canonical form of canonical headers is the headers themselves.** -/
theorem canonical_eq_self {headers : Headers} (h : headers.Canonical) :
    headers.canonical = headers := by
  -- the entries have canonical names, and no name twice
  have hnames : ∀ entry ∈ headers.toList, canonicalName entry.1 = entry.1 := by
    intro entry hentry
    have hmem := Std.ExtTreeMap.mem_toList_iff_getElem?_eq_some.1 hentry
    exact h entry.1 (Std.ExtTreeMap.mem_iff_isSome_getElem?.2 (by simp [hmem]))
  have hdistinct : headers.toList.Pairwise fun a b => a.1 ≠ b.1 :=
    Std.ExtTreeMap.distinct_keys_toList.imp fun hab heq => hab (by simp [heq])
  rw [canonical, foldl_addAll_eq_foldl_insert _ _ hnames hdistinct (by simp),
    foldl_insert_toList]

end ReplayProxy.Headers
