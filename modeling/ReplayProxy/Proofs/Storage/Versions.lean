import ReplayProxy.Proofs.Storage.Places
import ReplayProxy.Proofs.Url.Paths

/-!
# Layouts of other versions

A database states the version of its layout in the first row of a table. One with a newer layout
than this program's is refused when it is opened, and nothing is touched; one with an older layout,
or with none, is brought up to date (`Database.Updated`), which changes nothing but the table of
versions (`Database.migrate_of_newer`, `Database.migrate_of_not_newer`). A version is a number of
sixty-four bits, of which thirty-two are read; what does not fit counts as none, so the layouts of
the greatest versions are not refused.

To open a database makes the directories above it. Where a path names a database they are there
already (`FileTree.makeDirectory_of_resolve`), so the version is all that counts.

Main statement: `FileTree.opens_of_find`.
-/

namespace ReplayProxy

namespace Database

variable {db : Database} {v : Int}

/-! ### Versions -/

/-- The first version that is not read. -/
def firstUnread : Int := 2147483648

/-- What is said of a newer layout. -/
def newerThan (v : Int) : StorageError :=
  .migration ("database schema version " ++ toString v ++ " is newer than supported version " ++
    toString currentVersion)

theorem migrate_of_newer (hfirst : db.versions.head? = some v) (hnewer : currentVersion < v)
    (hread : v < firstUnread) : db.migrate = .error (newerThan v) := by
  have hv : readVersion db.versions = v := by
    obtain ⟨others, hversions⟩ := List.head?_eq_some_iff.1 hfirst
    rw [hversions]
    refine if_pos ⟨?_, hread⟩
    exact Int.le_trans (by decide) (Int.le_of_lt hnewer)
  rw [migrate, hv]
  exact if_pos hnewer

/-- A version that is not newer, or that is not read, does not count as newer. -/
theorem readVersion_le
    (h : ∀ v, db.versions.head? = some v → v ≤ currentVersion ∨ firstUnread ≤ v) :
    readVersion db.versions ≤ currentVersion := by
  cases hversions : db.versions with
  | nil => decide
  | cons v others =>
    have hfirst : db.versions.head? = some v := by rw [hversions, List.head?_cons]
    rw [readVersion]
    split
    · next hread => exact (h v hfirst).resolve_right (Int.not_le.2 hread.2)
    · decide

/-- Only this program's version counts as it. -/
theorem head?_of_readVersion {stored : List Int} (h : readVersion stored = currentVersion) :
    stored.head? = some currentVersion := by
  -- without a row the version counts as 0, and so it does if the row cannot be read
  cases stored with
  | nil => exact absurd h (by decide)
  | cons v others =>
    rw [readVersion] at h
    split at h
    · rw [List.head?_cons, h]
    · exact absurd h (by decide)

/-- A database of this program's layout that holds what another one holds. -/
structure Updated (db db' : Database) : Prop where
  /-- The version that is read is this program's. -/
  first : db'.versions.head? = some currentVersion
  /-- It is the only one, unless there were several before. -/
  only : db.versions.length ≤ 1 → db'.versions = [currentVersion]
  registry : db'.registry = db.registry
  tables : db'.tables = db.tables

theorem migrate_of_not_newer
    (h : ∀ v, db.versions.head? = some v → v ≤ currentVersion ∨ firstUnread ≤ v) :
    ∃ db', db.migrate = .ok db' ∧ Updated db db' := by
  have hle := readVersion_le h
  by_cases holder : readVersion db.versions < currentVersion
  · -- all rows are replaced by one
    refine ⟨db.withVersion currentVersion, ?_, rfl, fun _ => rfl, rfl, rfl⟩
    unfold migrate
    simp only [gt_iff_lt, Int.not_lt.2 hle, holder, if_true, if_false]
  · -- nothing is written, so rows behind the first one stay
    have hsame : readVersion db.versions = currentVersion :=
      Int.le_antisymm hle (Int.not_lt.1 holder)
    have hfirst := head?_of_readVersion hsame
    refine ⟨db, migrate_eq_self_iff.2 hsame, hfirst, fun hone => ?_, rfl, rfl⟩
    obtain ⟨others, hversions⟩ := List.head?_eq_some_iff.1 hfirst
    rw [hversions, List.length_cons] at hone
    rw [hversions, List.length_eq_zero_iff.1 (by omega : others.length = 0)]

end Database

namespace FileTree

variable {t t' : FileTree} {path : String} {p q : Path} {cs : List String} {c : String}

/-! ### The directories above -/

/-- What can be a component of a path. -/
structure IsComponent (c : String) : Prop where
  slash : '/' ∉ c.toList
  nonempty : c ≠ ""
  here : c ≠ "."

theorem isComponent_of_mem (h : c ∈ components path) : IsComponent c := by
  obtain ⟨hmem, hkept⟩ := List.mem_filter.1 h
  obtain ⟨segment, hsegment, rfl⟩ := List.mem_map.1 hmem
  refine ⟨?_, ?_, ?_⟩
  · rw [String.toList_ofList]
    exact fun hslash => (Url.mem_of_mem_splitOn hsegment '/' hslash).2 rfl
  · simp_all
  · simp_all

/-- The segments of components that are joined with slashes. -/
theorem splitOn_intercalate (h : ∀ c ∈ cs, IsComponent c) (hne : cs ≠ []) :
    (String.intercalate "/" cs).toList.splitOn '/' = cs.map String.toList := by
  rw [String.toList_intercalate]
  refine List.splitOn_intercalate '/' ?_ (by simpa using hne)
  intro segment hsegment
  obtain ⟨c, hc, rfl⟩ := List.mem_map.1 hsegment
  exact (h c hc).slash

/-- Components that are joined with slashes are found again. -/
theorem components_intercalate (h : ∀ c ∈ cs, IsComponent c) :
    components (String.intercalate "/" cs) = cs := by
  cases cs with
  | nil => decide
  | cons c cs =>
    have hkept : ∀ d ∈ c :: cs, (d != "" && d != ".") = true := by
      intro d hd
      simp [(h d hd).nonempty, (h d hd).here]
    rw [components, splitOn_intercalate h (List.cons_ne_nil _ _), List.map_map]
    have hid : String.ofList ∘ String.toList = id := funext fun s => String.ofList_toList
    rw [hid, List.map_id, List.filter_eq_self.2 hkept]

theorem startsWith_slash_iff : path.startsWith "/" = true ↔ ∃ cs, path.toList = '/' :: cs := by
  rw [← String.startsWith_toSlice, String.Slice.startsWith_string_iff, String.copy_toSlice]
  constructor
  · rintro ⟨cs, hcs⟩
    exact ⟨cs, hcs.symm⟩
  · rintro ⟨cs, hcs⟩
    exact ⟨cs, hcs.symm⟩

/-- Components that are joined with slashes do not begin with one. -/
theorem startsWith_intercalate (h : ∀ c ∈ cs, IsComponent c) :
    (String.intercalate "/" cs).startsWith "/" = false := by
  refine Bool.eq_false_iff.2 fun hstarts => ?_
  obtain ⟨rest, hrest⟩ := startsWith_slash_iff.1 hstarts
  cases cs with
  | nil => cases hrest
  | cons c cs =>
    -- otherwise the first component would be empty
    have hsplit := splitOn_intercalate h (List.cons_ne_nil _ _)
    rw [hrest, Url.splitOn_slash] at hsplit
    have hempty := (List.cons.inj hsplit).1
    exact (h c List.mem_cons_self).nonempty (String.toList_eq_nil_iff.1 hempty.symm)

/-- The path above a path has the same components but the last, and starts where it starts. -/
theorem components_parent (h : components path ≠ []) :
    base ((parent? path).getD "") = base path ∧
      components ((parent? path).getD "") = (components path).dropLast := by
  have hparts : ∀ c ∈ (components path).dropLast, IsComponent c := fun c hc =>
    isComponent_of_mem (List.dropLast_subset _ hc)
  have hparent : (parent? path).getD "" =
      if path.startsWith "/" then "/" ++ String.intercalate "/" (components path).dropLast
      else String.intercalate "/" (components path).dropLast := by
    unfold parent?
    split
    · next hnil => exact absurd hnil h
    · rfl
  -- a path from the root keeps its slash, and any other one begins with a component
  rw [hparent]
  by_cases hstarts : path.startsWith "/" = true
  · have hslash : ("/" ++ String.intercalate "/" (components path).dropLast).toList =
        '/' :: (String.intercalate "/" (components path).dropLast).toList := by simp
    rw [if_pos hstarts]
    constructor
    · rw [base, base, if_pos hstarts, if_pos (startsWith_slash_iff.2 ⟨_, hslash⟩)]
    · -- in front of the slash there is no component
      rw [components, hslash, Url.splitOn_slash, List.map_cons, List.filter_cons_of_neg (by simp)]
      exact components_intercalate hparts
  · rw [if_neg hstarts, base, base, startsWith_intercalate hparts, if_neg hstarts]
    exact ⟨rfl, components_intercalate hparts⟩

theorem walk_cons (t : FileTree) (p : Path) (c : String) (cs : List String) :
    t.walk p (c :: cs) =
      match t.node? p with
      | none => .error .notFound
      | some .directory => t.walk (child p c) cs
      | some _ => .error .notDirectory := rfl

/-- Only directories are passed through. -/
theorem walk_cons_eq_ok (h : t.walk p (c :: cs) = .ok q) :
    t.node? p = some .directory ∧ t.walk (child p c) cs = .ok q := by
  rw [walk_cons] at h
  split at h
  · cases h
  · next hnode => exact ⟨hnode, h⟩
  · cases h

/-- All directories but the last place are there on the way to it. -/
theorem makeFrom_of_walk (h : t.walk p (cs ++ [c]) = .ok q) : t.makeFrom p cs = .ok t := by
  induction cs generalizing p with
  | nil => rfl
  | cons d cs ih =>
    obtain ⟨-, hwalk⟩ := walk_cons_eq_ok h
    -- there is one component more, so this one is passed through
    have hnode : t.node? (child p d) = some .directory := by
      cases cs with
      | nil => exact (walk_cons_eq_ok hwalk).1
      | cons d' cs => exact (walk_cons_eq_ok hwalk).1
    rw [makeFrom_cons, hnode]
    exact ih hwalk

theorem node?_base (t : FileTree) (path : String) : t.node? (base path) = some .directory := by
  unfold base
  split <;> rfl

/-- Where a path leads to something else than a directory, the directories above it are there. -/
theorem makeDirectory_of_resolve (h : t.resolve path = .ok p) (hp : t.node? p ≠ some .directory) :
    t.makeDirectory ((parent? path).getD "") = .ok t := by
  obtain ⟨-, hwalk, -⟩ := resolve_eq_ok_iff.1 h
  -- a path without components names the directory in which it starts
  have hne : components path ≠ [] := by
    intro hnil
    rw [hnil] at hwalk
    obtain rfl := Except.ok.inj hwalk
    exact hp (node?_base t path)
  obtain ⟨hbase, hcomponents⟩ := components_parent hne
  rw [← List.dropLast_concat_getLast hne] at hwalk
  rw [makeDirectory, hbase, hcomponents]
  exact makeFrom_of_walk hwalk

/-! ### Opening -/

theorem find_eq_ok_iff {n : Node} :
    t.find path = .ok n ↔ ∃ p, t.resolve path = .ok p ∧ t.node? p = some n := by
  unfold find
  rw [bind_eq_ok_iff]
  refine exists_congr fun p => and_congr_right fun _ => ?_
  cases t.node? p with
  | none => exact iff_of_false nofun nofun
  | some m =>
    constructor
    · intro h
      exact congrArg some (Except.ok.inj h)
    · intro h
      exact congrArg Except.ok (Option.some.inj h)

/-- What is put twice is there once. -/
theorem put_put (t : FileTree) (p : Path) (n : Node) : (t.put p n).put p n = t.put p n := by
  refine congrArg FileTree.mk (Std.ExtTreeMap.ext_getElem? fun q => ?_)
  show ((t.nodes.insert p n).insert p n)[q]? = (t.nodes.insert p n)[q]?
  rw [Std.ExtTreeMap.getElem?_insert, Std.ExtTreeMap.getElem?_insert]
  split <;> rfl

/-- To open a database that is there is to bring its layout up to date. -/
theorem openDatabase_of_resolve {db : Database} (hresolve : t.resolve path = .ok p)
    (hnode : t.node? p = some (.database db)) :
    t.openDatabase path =
      match db.migrate with
      | .error err => (.error err, t)
      | .ok db' => (.ok db', t.put p (.database db')) := by
  -- nothing has to be made on the way to a database that is there
  have hmade := makeDirectory_of_resolve hresolve (by simp [hnode])
  have hat : t.databaseAt path = db.migrate.map fun db' => (p, db') := by
    rw [databaseAt, hresolve]
    simp only [hnode]
    cases db.migrate <;> rfl
  rw [openDatabase, hmade]
  dsimp only
  rw [hat]
  cases db.migrate <;> rfl

/-- What was opened is found. -/
theorem find_of_openDatabase {db : Database} (h : t.openDatabase path = (.ok db, t')) :
    t'.find path = .ok (.database db) := by
  obtain ⟨p, hholds⟩ := holds_of_openDatabase h
  exact find_eq_ok_iff.2 ⟨p, hholds.resolved, hholds.there⟩

/-- What comes of opening a database that is there. -/
structure Opens (t : FileTree) (path : String) (db : Database) : Prop where
  /-- A newer layout is refused, and all files stay as they are. -/
  newer : ∀ v, db.versions.head? = some v → Database.currentVersion < v →
    v < Database.firstUnread → t.openDatabase path = (.error (Database.newerThan v), t)
  /-- Any other layout is brought up to date, also if its version is too great to be read. The
  registry and the tables stay as they are, as do all other files, and to open the database again
  changes nothing. -/
  older : (∀ v, db.versions.head? = some v →
      v ≤ Database.currentVersion ∨ Database.firstUnread ≤ v) →
    ∃ db' t', t.openDatabase path = (.ok db', t') ∧ Database.Updated db db' ∧
      t'.find path = .ok (.database db') ∧
      (∀ q, t.resolve path ≠ .ok q → t'.node? q = t.node? q) ∧
      t'.openDatabase path = (.ok db', t')

/-- **Opening a database.** Only the version that a database states decides what comes of it. -/
theorem opens_of_find {db : Database} (h : t.find path = .ok (.database db)) : Opens t path db := by
  obtain ⟨p, hresolve, hnode⟩ := find_eq_ok_iff.1 h
  have hopen := openDatabase_of_resolve hresolve hnode
  refine { newer := fun v hfirst hnewer hread => ?_, older := fun hfirst => ?_ }
  · rw [hopen, Database.migrate_of_newer hfirst hnewer hread]
  · obtain ⟨db', hmigrate, hupdated⟩ := Database.migrate_of_not_newer hfirst
    rw [hmigrate] at hopen
    refine ⟨db', _, hopen, hupdated, find_of_openDatabase hopen, ?_, ?_⟩
    · intro q hq
      refine node?_put_of_ne ?_ _
      rintro rfl
      exact hq hresolve
    · -- it is put where it is already
      obtain ⟨p', hholds⟩ := holds_of_openDatabase hopen
      have hplace : p' = p :=
        (eq_placeOf_of_resolve hholds.resolved).trans (eq_placeOf_of_resolve hresolve).symm
      rw [hholds.openDatabase, hplace, put_put]

/-- Files with nothing but a database, under the name that the program gives it. -/
def only (db : Database) : FileTree := ({} : FileTree).put [".", "requests.db"] (.database db)

theorem find_only (db : Database) : (only db).find "requests.db" = .ok (.database db) := by
  have hname : IsName "requests.db" := ⟨by decide, by decide, by decide, by decide⟩
  have hnone : ({} : FileTree).node? [".", "requests.db"] ≠ some .directory := by
    simp [node?]
  exact find_eq_ok_iff.2 ⟨_, resolve_name hname _, node?_put_self hnone⟩

/-- The next version is refused. -/
theorem opens_of_find_next :
    let db : Database := ⟨[2], [], ∅⟩
    (only db).find "requests.db" = .ok (.database db) ∧ Opens (only db) "requests.db" db ∧
      (only db).openDatabase "requests.db" =
        (.error (.migration "database schema version 2 is newer than supported version 1"),
          only db) := by
  intro db
  have hopens : Opens (only db) "requests.db" db := opens_of_find (find_only db)
  exact ⟨find_only db, hopens, hopens.newer 2 rfl (by decide) (by decide)⟩

/-- The first version that is not read is newer, and it is written over. -/
theorem unread_version_opened :
    let db : Database := ⟨[2147483648], [], ∅⟩
    Database.currentVersion < 2147483648 ∧
      (only db).find "requests.db" = .ok (.database db) ∧
      ∃ t', (only db).openDatabase "requests.db" = (.ok ⟨[1], [], ∅⟩, t') ∧
        t'.find "requests.db" = .ok (.database ⟨[1], [], ∅⟩) := by
  intro db
  obtain ⟨p, hresolve, hnode⟩ := find_eq_ok_iff.1 (find_only db)
  have hopen := openDatabase_of_resolve hresolve hnode
  have hmigrate : db.migrate = .ok ⟨[1], [], ∅⟩ := by
    rw [Database.migrate]
    rfl
  rw [hmigrate] at hopen
  exact ⟨by decide, find_only db, _, hopen, find_of_openDatabase hopen⟩

end FileTree

end ReplayProxy
