import ReplayProxy.Proofs.Storage.Reopening

/-!
# Texts and their places

Where a path leads does not depend on the files, if it leads anywhere: its components say
whether to go up or down (`FileTree.placeOf`). So one can speak of the text at a place while
directories are made and files are written. Writing a file changes the text at its own place
(`FileTree.textAt_of_write`), and making a directory changes no text
(`FileTree.textAt_of_makeDirectory`).
-/

namespace ReplayProxy.FileTree

variable {t t' : FileTree} {path : String} {p q : Path} {cs : List String}

/-! ### Places -/

/-- The place that a path as written leads to, if it leads anywhere. -/
def placeOf (path : String) : Path := (components path).foldl child (base path)

theorem eq_of_walk (h : t.walk p cs = .ok q) : q = cs.foldl child p := by
  induction cs generalizing p with
  | nil =>
    cases h
    rfl
  | cons c cs ih =>
    unfold walk at h
    -- only a directory is passed through
    split at h
    · cases h
    · exact ih h
    · cases h

theorem eq_placeOf_of_resolve (h : t.resolve path = .ok p) : p = placeOf path :=
  eq_of_walk (resolve_eq_ok_iff.1 h).2.1

/-- A name of a file that leads down. -/
structure IsName (name : String) : Prop where
  slash : '/' ∉ name.toList
  nonempty : name ≠ ""
  here : name ≠ "."
  up : name ≠ ".."

/-- What is joined below a directory is the name, perhaps behind a slash. -/
theorem toList_join (directory name : String) :
    (join directory name).toList = name.toList ∨
      ∃ above, (join directory name).toList = above ++ '/' :: name.toList := by
  unfold join
  split
  · exact .inl rfl
  · split
    · next hends =>
      rw [← String.endsWith_toSlice, String.Slice.endsWith_string_iff] at hends
      obtain ⟨above, hdirectory⟩ := hends
      rw [String.copy_toSlice] at hdirectory
      refine .inr ⟨above, ?_⟩
      rw [String.toList_append, ← hdirectory]
      simp
    · exact .inr ⟨directory.toList, by simp⟩

/-- It leads to a place of that name. -/
theorem getLast?_placeOf_join {name : String} (h : IsName name) (directory : String) :
    (placeOf (join directory name)).getLast? = some name := by
  have hsplit : name.toList.splitOn '/' = [name.toList] := List.splitOn_eq_singleton h.slash
  obtain ⟨above, hcomponents⟩ : ∃ above, components (join directory name) = above ++ [name] := by
    rcases toList_join directory name with heq | ⟨above, heq⟩
    · exact ⟨[], by simp [components, heq, hsplit, h.nonempty, h.here]⟩
    · refine ⟨((above.splitOn '/').map String.ofList).filter fun c => c != "" && c != ".", ?_⟩
      simp [components, heq, List.splitOn_append_cons_self, hsplit, h.nonempty, h.here]
  rw [placeOf, hcomponents, List.foldl_append]
  simp [child, h.up]

theorem placeOf_join_ne {name name' : String} (h : IsName name) (h' : IsName name')
    (hne : name ≠ name') (directory : String) :
    placeOf (join directory name) ≠ placeOf (join directory name') := by
  intro heq
  have hlast := getLast?_placeOf_join h directory
  rw [heq, getLast?_placeOf_join h' directory] at hlast
  exact hne (Option.some.inj hlast).symm

/-- A name is found in the directory of relative paths. -/
theorem resolve_name {name : String} (h : IsName name) (t : FileTree) :
    t.resolve name = .ok [".", name] := by
  -- a name has no slash, so it neither begins nor ends with one
  have hends : ∀ s : String, '/' ∈ s.toList → ¬name.endsWith s = true := by
    intro s hs hends
    rw [← String.endsWith_toSlice, String.Slice.endsWith_string_iff, String.copy_toSlice] at hends
    exact h.slash (hends.subset hs)
  have hstarts : name.startsWith "/" = false := by
    refine Bool.eq_false_iff.2 fun hstarts => h.slash ?_
    rw [← String.startsWith_toSlice, String.Slice.startsWith_string_iff, String.copy_toSlice]
      at hstarts
    exact hstarts.subset (by decide)
  have hwants : wantsDirectory name = false := by
    simp [wantsDirectory, hends "/" (by decide), hends "/." (by decide), h.here]
  have hcomponents : components name = [name] := by
    simp [components, List.splitOn_eq_singleton h.slash, h.nonempty, h.here]
  refine resolve_eq_ok_iff.2 ⟨by simpa using h.nonempty, ?_, by simp [hwants]⟩
  rw [base, hstarts, hcomponents]
  simp [walk, node?, h.up]

/-! ### Texts -/

/-- The text that a node is read as. -/
def textOf : Node → Option String
  | .file content _ => content.text?
  | .database db => db.image.text?
  | .directory => none

/-- The text at a place. -/
def textAt (t : FileTree) (p : Path) : Option String := (t.node? p).bind textOf

/-- The text that is read is the one at the place of the path. -/
theorem textAt_of_readText {s : String} (h : t.readText path = .ok s) :
    t.textAt (placeOf path) = some s := by
  obtain ⟨content, hread, h⟩ := bind_eq_ok_iff.1 h
  obtain ⟨n, hfind, hread⟩ := bind_eq_ok_iff.1 hread
  obtain ⟨p, hresolve, hfind⟩ := bind_eq_ok_iff.1 hfind
  -- what is found lies at the place of the path, and what is read there is its text
  have hnode : t.node? (placeOf path) = some n := by
    rw [← eq_placeOf_of_resolve hresolve]
    split at hfind
    · next heq =>
      cases hfind
      exact heq
    · cases hfind
  have htext : content.text? = some s := by
    split at h
    · next heq =>
      cases h
      exact heq
    · cases h
  rw [textAt, hnode]
  cases n with
  | directory => cases hread
  | file _ _ | database _ =>
    cases hread
    exact htext

/-- A text that is kept under a name is read. -/
theorem readText_name {name text : String} {writable : Bool} (h : IsName name)
    (hnode : t.node? [".", name] = some (.file (Bytes.ofText text) writable)) :
    t.readText name = .ok text := by
  simp [readText, read, find, resolve_name h, hnode]

/-- A file under a name is written over, unless it refuses that. -/
theorem write_name {name : String} {old : Bytes} {writable : Bool} (h : IsName name)
    (hnode : t.node? [".", name] = some (.file old writable)) (content : Bytes) :
    t.write name content =
      if writable then .ok (t.put [".", name] (.file content true)) else .error .readOnly := by
  cases writable with
  | true => simp [write, resolve_name h, hnode]
  | false =>
    simp [write, resolve_name h, hnode]
    rfl

theorem textAt_put_of_ne (h : p ≠ q) (n : Node) : (t.put p n).textAt q = t.textAt q := by
  rw [textAt, textAt, node?_put_of_ne h]

/-- Writing puts a file at the place of the path, which is not a directory. -/
theorem eq_of_write {content : Bytes} (h : t.write path content = .ok t') :
    t.node? (placeOf path) ≠ some .directory ∧
      t' = t.put (placeOf path) (.file content true) := by
  obtain ⟨p, hresolve, h⟩ := bind_eq_ok_iff.1 h
  rw [← eq_placeOf_of_resolve hresolve]
  split at h
  · cases h
  · cases h
  · -- only a file that may be written, or nothing, is replaced
    next hdirectory _ hnode =>
    cases h
    rw [hnode]
    exact ⟨fun heq => hdirectory (Option.some.inj heq), rfl⟩
  · next hnone =>
    split at h
    · cases h
    · cases h
      exact ⟨by simp [hnone], rfl⟩

/-- What is written is at the place of the path, and all other texts stay. -/
theorem textAt_of_write {content : Bytes} (h : t.write path content = .ok t') :
    t'.textAt (placeOf path) = content.text? ∧
      ∀ q, q ≠ placeOf path → t'.textAt q = t.textAt q := by
  obtain ⟨hdirectory, rfl⟩ := eq_of_write h
  refine ⟨?_, fun q hq => textAt_put_of_ne (Ne.symm hq) _⟩
  rw [textAt, node?_put_self hdirectory]
  rfl

/-- Making directories changes no text. -/
theorem textAt_of_makeFrom (h : t.makeFrom p cs = .ok t') (q : Path) :
    t'.textAt q = t.textAt q := by
  induction cs generalizing t p with
  | nil =>
    cases h
    rfl
  | cons c cs ih =>
    rw [makeFrom_cons] at h
    split at h
    · next hnone =>
      rw [ih h]
      -- a directory is put where nothing was, and neither is a text
      by_cases hq : child p c = q
      · rw [← hq, textAt, textAt, node?_put_directory, hnone]
        rfl
      · exact textAt_put_of_ne hq _
    · exact ih h
    · cases h

theorem textAt_of_makeDirectory (h : t.makeDirectory path = .ok t') (q : Path) :
    t'.textAt q = t.textAt q := textAt_of_makeFrom h q

end ReplayProxy.FileTree
