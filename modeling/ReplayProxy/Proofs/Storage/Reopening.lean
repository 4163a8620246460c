import ReplayProxy.Options
import ReplayProxy.Proofs.Fallible
import ReplayProxy.Proofs.Storage.Entries

/-!
# Closing and opening a database

What was written to a database is there when it is opened again. Along the way a file system
is asked many questions: are the directories there, what does the path name, is the layout
that of this program. `FileTree.Holds t path p db` collects the answers: the path names the
database `db`, which lies at `p`, and nothing about it has to be made or brought up to date.

Opening a database leads there from any tree (`FileTree.holds_of_openDatabase`), writing the
database back stays there (`FileTree.Holds.put`), and opening it there changes nothing
(`FileTree.Holds.openDatabase`). The reason is that only directories matter on the way to a
database, and that a database is never put in the place of one.

Main statement:

* `Caches.create_save`: the caches of a database are the same after they have been written
  back and opened again.
-/

namespace ReplayProxy

/-! ### Layouts -/

namespace Database

variable {db db' : Database}

/-- What was brought up to date has this program's layout. -/
theorem version_of_migrate (h : db.migrate = .ok db') :
    readVersion db'.versions = currentVersion := by
  unfold migrate at h
  by_cases hnewer : readVersion db.versions > currentVersion
  · simp [hnewer] at h
  · by_cases holder : readVersion db.versions < currentVersion
    · simp only [hnewer, holder, if_true, if_false, Except.ok.injEq] at h
      rw [← h]
      rfl
    -- a database that is neither newer nor older is left alone
    · simp only [hnewer, holder, if_false, Except.ok.injEq] at h
      rw [← h]
      omega

/-- The databases of this program's layout are those that need not be brought up to date. -/
theorem migrate_eq_self_iff : db.migrate = .ok db ↔ readVersion db.versions = currentVersion := by
  refine ⟨version_of_migrate, fun h => ?_⟩
  unfold migrate
  simp [h]

theorem migrate_migrate (h : db.migrate = .ok db') : db'.migrate = .ok db' :=
  migrate_eq_self_iff.2 (version_of_migrate h)

/-! ### Buckets -/

/-- The table of a bucket, nothing being an empty one. -/
def bucket (db : Database) (name : String) : Table :=
  (db.tables[Ascii.lower ("bucket_" ++ name)]?).getD .empty

/-- Two names of one table. -/
def Clash (name other : String) : Prop :=
  Ascii.lower ("bucket_" ++ name) = Ascii.lower ("bucket_" ++ other)

theorem bucket_putTable_self (db : Database) (name : String) (t : Table) :
    (db.putTable name t).bucket name = t := by
  rw [bucket, putTable, Std.ExtTreeMap.getElem?_insert_self, Option.getD_some]

theorem bucket_putTable_of_ne {name other : String} (h : ¬Clash name other) (db : Database)
    (t : Table) : (db.putTable name t).bucket other = db.bucket other := by
  have hne : ¬Ascii.lower ("bucket_" ++ name) = Ascii.lower ("bucket_" ++ other) := h
  rw [bucket, bucket, putTable, Std.ExtTreeMap.getElem?_insert]
  simp [hne]

theorem table?_of_valid {name : String} (h : validBucket name = true) (db : Database) :
    db.table? name = .ok db.tables[Ascii.lower ("bucket_" ++ name)]? := by
  simp [table?, tableName, h]

theorem cache_of_valid {name : String} (h : validBucket name = true) (db : Database) :
    db.cache name = { backing := .table (db.bucket name) } := by
  rw [cache, table?_of_valid h, bucket]
  cases db.tables[Ascii.lower ("bucket_" ++ name)]? <;> rfl

/-- Opening a bucket keeps the versions and the tables of all buckets. -/
theorem openBucket_of_valid {name : String} (h : validBucket name = true) (db : Database) :
    ∃ db', db.openBucket name = .ok db' ∧ db'.versions = db.versions ∧
      ∀ other, db'.bucket other = db.bucket other := by
  rw [openBucket, table?_of_valid h]
  refine ⟨_, rfl, rfl, fun other => ?_⟩
  -- a table that is there is put back, and one that is not counts as empty before and after
  show (db.putTable name (db.bucket name)).bucket other = db.bucket other
  by_cases hclash : Clash name other
  · have hname : ∀ d : Database, d.bucket other = d.bucket name := fun d => by
      rw [bucket, bucket, hclash]
    rw [hname, hname, bucket_putTable_self]
  · exact bucket_putTable_of_ne hclash db _

end Database

namespace FileTree

variable {t t' : FileTree} {path : String} {p q : Path} {cs : List String}

/-! ### Nodes -/

theorem node?_put_of_ne (h : p ≠ q) (n : Node) : (t.put p n).node? q = t.node? q := by
  have hget : (t.nodes.insert p n)[q]? = t.nodes[q]? := by
    rw [Std.ExtTreeMap.getElem?_insert]
    simp [h]
  rw [node?, node?, put, hget]

theorem node?_put_self {n : Node} (h : t.node? p ≠ some .directory) :
    (t.put p n).node? p = some n := by
  unfold node? at h ⊢
  -- the root stays a directory whatever is put there
  split at h
  · exact absurd rfl h
  · next hroot => rw [if_neg hroot, put, Std.ExtTreeMap.getElem?_insert_self]

/-- A directory that is put somewhere is there. -/
theorem node?_put_directory (t : FileTree) (p : Path) :
    (t.put p .directory).node? p = some .directory := by
  unfold node?
  split
  · rfl
  · rw [put, Std.ExtTreeMap.getElem?_insert_self]

/-! ### Directories -/

/-- The place that a component leads to. -/
def child (p : Path) (c : String) : Path := if c = ".." then p.dropLast else p ++ [c]

theorem makeFrom_cons (t : FileTree) (p : Path) (c : String) (cs : List String) :
    t.makeFrom p (c :: cs) =
      match t.node? (child p c) with
      | none => (t.put (child p c) .directory).makeFrom (child p c) cs
      | some .directory => t.makeFrom (child p c) cs
      | some _ => .error .notDirectory := rfl

/-- Every directory of one tree is a directory of the other. -/
def Keeps (t t' : FileTree) : Prop :=
  ∀ p, t.node? p = some .directory → t'.node? p = some .directory

theorem Keeps.trans {t'' : FileTree} (h : t.Keeps t') (h' : t'.Keeps t'') : t.Keeps t'' :=
  fun p hp => h' p (h p hp)

/-- A node that is put where no directory is leaves all directories. -/
theorem keeps_put (h : t.node? p ≠ some .directory) (n : Node) : t.Keeps (t.put p n) := by
  intro q hq
  have hne : p ≠ q := fun heq => h (heq ▸ hq)
  rw [node?_put_of_ne hne, hq]

theorem keeps_makeFrom (h : t.makeFrom p cs = .ok t') : t.Keeps t' := by
  induction cs generalizing t p with
  | nil =>
    cases h
    exact fun _ hp => hp
  | cons c cs ih =>
    rw [makeFrom_cons] at h
    split at h
    · next hnone =>
      have hput : t.Keeps (t.put (child p c) .directory) := keeps_put (by simp [hnone]) _
      exact hput.trans (ih h)
    · exact ih h
    · cases h

/-- Directories that were made need not be made in a tree that keeps them. -/
theorem makeFrom_of_keeps {t'' : FileTree} (h : t.makeFrom p cs = .ok t') (hkeeps : t'.Keeps t'') :
    t''.makeFrom p cs = .ok t'' := by
  induction cs generalizing t p with
  | nil => rfl
  | cons c cs ih =>
    rw [makeFrom_cons] at h ⊢
    -- the directory was made or found on the first way; either way the second finds it
    split at h
    · have hmade := keeps_makeFrom h _ (node?_put_directory t (child p c))
      rw [hkeeps _ hmade]
      exact ih h
    · next hthere =>
      rw [hkeeps _ (keeps_makeFrom h _ hthere)]
      exact ih h
    · cases h

/-- A path leads to the same place in a tree that keeps the directories. -/
theorem walk_of_keeps (hkeeps : t.Keeps t') (h : t.walk p cs = .ok q) : t'.walk p cs = .ok q := by
  induction cs generalizing p with
  | nil => exact h
  | cons c cs ih =>
    unfold walk at h ⊢
    -- only directories are passed through, and they are all kept
    cases hp : t.node? p with
    | none => simp [hp] at h
    | some n =>
      cases n with
      | directory =>
        simp only [hp] at h
        simp only [hkeeps p hp]
        exact ih h
      | file content writable => simp [hp] at h
      | database db => simp [hp] at h

/-- A path is resolved by following its components, unless it insists on a directory and
something else is there. -/
theorem resolve_eq_ok_iff :
    t.resolve path = .ok p ↔
      path.isEmpty = false ∧ t.walk (base path) (components path) = .ok p ∧
        (wantsDirectory path = true → t.node? p = none ∨ t.node? p = some .directory) := by
  unfold resolve
  cases hempty : path.isEmpty with
  | true => simp [throw, throwThe, MonadExceptOf.throw]
  | false =>
    cases hwalk : t.walk (base path) (components path) with
    | error err => simp
    | ok q =>
      rcases hnode : t.node? q with _ | _ | _ | _ <;> cases hwants : wantsDirectory path <;>
        simp [hnode, throw, throwThe, MonadExceptOf.throw] <;> rintro rfl <;> simp [hnode]

/-! ### A database and its path -/

/-- The path names a database, and neither has a directory to be made nor the database to be
brought up to date. -/
structure Holds (t : FileTree) (path : String) (p : Path) (db : Database) : Prop where
  made : t.makeDirectory ((parent? path).getD "") = .ok t
  resolved : t.resolve path = .ok p
  there : t.node? p = some (.database db)
  current : db.migrate = .ok db

/-- A database that is put where a path leads, and where no directory is, is held there. -/
theorem holds_put {t₀ : FileTree} {db : Database}
    (hmade : t₀.makeDirectory ((parent? path).getD "") = .ok t) (hresolve : t.resolve path = .ok p)
    (hnode : t.node? p ≠ some .directory) (hnone : t.node? p = none → wantsDirectory path = false)
    (hcurrent : db.migrate = .ok db) : Holds (t.put p (.database db)) path p db := by
  obtain ⟨hempty, hwalk, hwants⟩ := resolve_eq_ok_iff.1 hresolve
  have hkeeps := keeps_put hnode (.database db)
  refine ⟨makeFrom_of_keeps hmade hkeeps, ?_, node?_put_self hnode, hcurrent⟩
  refine resolve_eq_ok_iff.2 ⟨hempty, walk_of_keeps hkeeps hwalk, fun hdirectory => ?_⟩
  -- a path that insists on a directory leads to no place for a database
  rcases hwants hdirectory with hmissing | hthere
  · simp [hnone hmissing] at hdirectory
  · exact absurd hthere hnode

namespace Holds

variable {db db' : Database}

/-- Opening a database that is held finds it as it is. -/
theorem openDatabase (h : Holds t path p db) :
    t.openDatabase path = (.ok db, t.put p (.database db)) := by
  have hat : t.databaseAt path = .ok (p, db) := by
    rw [databaseAt, h.resolved]
    simp only [h.there, h.current, ok_bind, pure_eq_ok]
  rw [FileTree.openDatabase, h.made]
  simp only [hat]

theorem saveDatabase (h : Holds t path p db) :
    t.saveDatabase path db' = t.put p (.database db') := by
  rw [FileTree.saveDatabase, h.resolved]

/-- Another database of this layout may take the place of the one that is held. -/
theorem put (h : Holds t path p db) (hcurrent : db'.migrate = .ok db') :
    Holds (t.put p (.database db')) path p db' :=
  holds_put h.made h.resolved (by simp [h.there]) (by simp [h.there]) hcurrent

end Holds

/-- What it takes for a path to lead to a database. -/
theorem databaseAt_eq_ok {db : Database} (h : t.databaseAt path = .ok (p, db)) :
    t.resolve path = .ok p ∧ t.node? p ≠ some .directory ∧
      (t.node? p = none → wantsDirectory path = false) ∧ db.migrate = .ok db := by
  unfold databaseAt at h
  cases hresolve : t.resolve path with
  | error err => simp [hresolve, throw, throwThe, MonadExceptOf.throw] at h
  | ok q =>
    simp only [hresolve] at h
    -- a database is there, or it is made of an empty file or of nothing
    split at h
    · next hnode =>
      obtain ⟨_, hdb, hpair⟩ := bind_eq_ok_iff.1 h
      cases hpair
      exact ⟨rfl, by simp [hnode], by simp [hnode], Database.migrate_migrate hdb⟩
    · next hnode =>
      obtain ⟨_, hdb, hpair⟩ := bind_eq_ok_iff.1 h
      cases hpair
      exact ⟨rfl, by simp [hnode], by simp [hnode], Database.migrate_migrate hdb⟩
    · cases h
    · cases h
    · next hnode =>
      split at h
      · cases h
      · next hwants =>
        obtain ⟨_, hdb, hpair⟩ := bind_eq_ok_iff.1 h
        cases hpair
        exact ⟨rfl, by simp [hnode], fun _ => by simpa using hwants,
          Database.migrate_migrate hdb⟩

/-- Opening a database leads to a tree that holds it. -/
theorem holds_of_openDatabase {db : Database} (h : t.openDatabase path = (.ok db, t')) :
    ∃ p, Holds t' path p db := by
  unfold openDatabase at h
  cases hmade : t.makeDirectory ((parent? path).getD "") with
  | error err => simp [hmade] at h
  | ok t₁ =>
    -- the path is looked up after the directories above it were made
    simp only [hmade] at h
    cases hat : t₁.databaseAt path with
    | error err => simp [hat] at h
    | ok found =>
      obtain ⟨p, db'⟩ := found
      simp only [hat, Prod.mk.injEq, Except.ok.injEq] at h
      obtain ⟨rfl, rfl⟩ := h
      obtain ⟨hresolve, hnode, hnone, hcurrent⟩ := databaseAt_eq_ok hat
      exact ⟨p, holds_put hmade hresolve hnode hnone hcurrent⟩

/-- The path at which the program keeps its database by default. -/
theorem resolve_default :
    wantsDirectory "requests.db" = false ∧
      ({} : FileTree).resolve "requests.db" = .ok [".", "requests.db"] := by
  have hends : ∀ s : String,
      "requests.db".endsWith s = true → s.toList <:+ "requests.db".toList := by
    intro s h
    rw [← String.endsWith_toSlice, String.Slice.endsWith_string_iff] at h
    simpa using h
  have hwants : wantsDirectory "requests.db" = false := by
    -- the name ends neither in a slash nor in a lone dot
    refine Bool.eq_false_iff.2 fun h => ?_
    simp only [wantsDirectory, Bool.or_eq_true] at h
    rcases h with (h | h) | h
    · exact absurd (hends _ h) (by decide)
    · exact absurd (hends _ h) (by decide)
    · exact absurd h (by decide)
  have hbase : base "requests.db" = ["."] := by simp [base]
  have hcomponents : components "requests.db" = ["requests.db"] := by decide +kernel
  refine ⟨hwants, resolve_eq_ok_iff.2 ⟨by simp, ?_, by simp [hwants]⟩⟩
  rw [hbase, hcomponents]
  rfl

/-- There a new database is opened if the files hold nothing yet. -/
theorem openDatabase_default : ∃ files,
    ({} : FileTree).openDatabase "requests.db" =
      (.ok { Database.empty with versions := [1] }, files) := by
  obtain ⟨hwants, hresolve⟩ := resolve_default
  have hat : ({} : FileTree).databaseAt "requests.db" =
      .ok ([".", "requests.db"], { Database.empty with versions := [1] }) := by
    rw [databaseAt, hresolve, hwants]
    rfl
  have hup : components ((parent? "requests.db").getD "") = [] := by decide +kernel
  rw [openDatabase, makeDirectory, hup, makeFrom]
  simp only [hat]
  exact ⟨_, rfl⟩

end FileTree

/-! ### The two caches -/

namespace Caches

open Database

variable {o : Options} {files files' : FileTree} {c : Caches}

theorem valid_requests : validBucket requestsBucket = true := by decide

theorem valid_metadata : validBucket metadataBucket = true := by decide

theorem not_clash : ¬Clash metadataBucket requestsBucket := by
  intro h
  -- as lists of characters the two names can be told apart by evaluation
  have hletters := congrArg String.toList h
  simp only [Ascii.toList_lower] at hletters
  revert hletters
  decide

/-- The caches of a file tree: tables of the database that it holds. -/
structure Opened (o : Options) (files : FileTree) (c : Caches) : Prop where
  holds : ∃ p db, files.Holds o.databasePath p db
  requests : c.requests.Sound ∧ c.requests.backing.isTable = true
  metadata : c.metadata.Sound ∧ c.metadata.backing.isTable = true

/-- Opening the buckets of a database that is held. -/
theorem create_of_openDatabase {db : Database} {p : Path} (ho : o.storage = .database)
    (hopen : files.openDatabase o.databasePath = (.ok db, files'))
    (hholds : files'.Holds o.databasePath p db) :
    ∃ db', create o files =
        (.ok ⟨{ backing := .table (db.bucket requestsBucket) },
          { backing := .table (db.bucket metadataBucket) }⟩, files'.put p (.database db')) ∧
      (files'.put p (.database db')).Holds o.databasePath p db' := by
  obtain ⟨db₁, hrequests, hversions₁, hbucket₁⟩ := openBucket_of_valid valid_requests db
  obtain ⟨db₂, hmetadata, hversions₂, hbucket₂⟩ := openBucket_of_valid valid_metadata db₁
  refine ⟨db₂, ?_, ?_⟩
  · rw [create]
    simp only [ho, hopen, hrequests, hmetadata]
    rw [hholds.saveDatabase, cache_of_valid valid_requests, cache_of_valid valid_metadata,
      hbucket₂, hbucket₂, hbucket₁, hbucket₁]
  · -- opening a bucket leaves the version, so the layout is current still
    refine hholds.put (migrate_eq_self_iff.2 ?_)
    rw [hversions₂, hversions₁]
    exact migrate_eq_self_iff.1 hholds.current

/-- Whatever creates the caches, the files hold a database under them. -/
theorem opened_of_create (ho : o.storage = .database) (h : create o files = (.ok c, files')) :
    Opened o files' c := by
  -- the caches exist, so the database could be opened
  rcases hopen : files.openDatabase o.databasePath with ⟨_ | db, files₁⟩
  · simp [create, ho, hopen] at h
  · obtain ⟨p, hholds⟩ := FileTree.holds_of_openDatabase hopen
    obtain ⟨db', hcreate, hholds'⟩ := create_of_openDatabase ho hopen hholds
    rw [hcreate] at h
    cases h
    exact ⟨⟨p, db', hholds'⟩, ⟨fun _ => rfl, rfl⟩, ⟨fun _ => rfl, rfl⟩⟩

/-- **Closing and opening.** Caches of a database that are written back and opened again are
the same caches. -/
theorem create_save (ho : o.storage = .database) (h : Opened o files c) :
    ∃ files', create o (c.save o files) = (.ok c, files') ∧ Opened o files' c := by
  obtain ⟨p, db, hholds⟩ := h.holds
  obtain ⟨requests, hrequests⟩ := Cache.eq_table h.requests.1 h.requests.2
  obtain ⟨metadata, hmetadata⟩ := Cache.eq_table h.metadata.1 h.metadata.2
  let db' := (db.putTable requestsBucket requests).putTable metadataBucket metadata
  have hversion : readVersion db.versions = currentVersion :=
    migrate_eq_self_iff.1 hholds.current
  have hcurrent : db'.migrate = .ok db' := migrate_eq_self_iff.2 hversion
  have hholds₁ := hholds.put hholds.current
  have hholds₂ := hholds₁.put hcurrent
  -- writing back opens the database first, which puts it where it is already
  have hsave : c.save o files = (files.put p (.database db)).put p (.database db') := by
    rw [save, ho, hholds.openDatabase]
    simp only [store, hrequests, hmetadata]
    exact hholds₁.saveDatabase
  -- both tables are read back, since their names differ
  have hbuckets : db'.bucket requestsBucket = requests ∧ db'.bucket metadataBucket = metadata :=
    ⟨(bucket_putTable_of_ne not_clash _ _).trans (bucket_putTable_self _ _ _),
      bucket_putTable_self _ _ _⟩
  obtain ⟨db₃, hcreate, -⟩ :=
    create_of_openDatabase ho hholds₂.openDatabase (hholds₂.put hcurrent)
  rw [hbuckets.1, hbuckets.2, ← hrequests, ← hmetadata] at hcreate
  rw [← hsave] at hcreate
  exact ⟨_, hcreate, opened_of_create ho hcreate⟩

/-- The program's own options create caches over files that hold nothing yet. -/
theorem create_default : ∃ c files, create {} {} = (.ok c, files) := by
  obtain ⟨files, hopen⟩ := FileTree.openDatabase_default
  obtain ⟨p, hholds⟩ := FileTree.holds_of_openDatabase hopen
  obtain ⟨_, hcreate, -⟩ := create_of_openDatabase (o := {}) rfl hopen hholds
  exact ⟨_, _, hcreate⟩

end Caches

end ReplayProxy
