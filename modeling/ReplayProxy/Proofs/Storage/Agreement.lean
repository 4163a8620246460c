import ReplayProxy.Proofs.Storage.Buckets

/-!
# Caches in memory and in databases

A cache in memory and a cache over a bucket are used by the same steps. Both are sound, so both
give the answers that the values set last determine (`Cache.answerOf_after`), and a step has one
such answer. That they agree needs nothing else.

A database in a file may also be closed and opened again between any two steps (`Shelf.Event`).
Closing it leaves the file only. But each use of a database is in the file at once
(`Shelf.use`), and a file that holds the database gives it back when it is opened. So the
database after any events is the one after the uses among them (`Shelf.after_of_kept`).

Main statement:

* `Cache.backings_agree`: the answers of a cache are those of the map of the values set last,
  whether it is kept in memory, in a bucket, or in a bucket of a file that is closed and opened.
-/

namespace ReplayProxy

/-! ### Closing and opening -/

/-- A database that is in use, and the files among which it lies. -/
structure Shelf where
  db : Database
  files : FileTree

namespace Shelf

/-- What happens to a database in a file. -/
inductive Event where
  | used (u : Database.Use)
  /-- The database is closed and opened again. -/
  | reopened

/-- The uses among events. -/
def uses (events : List Event) : List Database.Use :=
  events.filterMap fun
    | .used u => some u
    | .reopened => none

/-- Uses the database. What the use leaves is in the file at once. -/
def use (path : String) (s : Shelf) (u : Database.Use) : Except StorageError Cache.Answer × Shelf :=
  let (answer, db) := s.db.use u
  (answer, ⟨db, s.files.saveDatabase path db⟩)

/-- Closes the database, which leaves the files only, and opens what they hold. -/
def reopen (path : String) (s : Shelf) : Except StorageError Shelf :=
  match s.files.openDatabase path with
  | (.ok db, files) => .ok ⟨db, files⟩
  | (.error err, _) => .error err

/-- What an event leaves. -/
def step (path : String) (s : Shelf) : Event → Except StorageError Shelf
  | .used u => .ok (s.use path u).2
  | .reopened => s.reopen path

/-- What is left after events, if the database could be opened each time. -/
def after (path : String) (s : Shelf) (events : List Event) : Except StorageError Shelf :=
  events.foldlM (step path) s

/-- The file holds the database that is in use. -/
def Kept (path : String) (s : Shelf) : Prop := ∃ p, s.files.Holds path p s.db

variable {path : String} {s : Shelf}

theorem kept_use (h : s.Kept path) (u : Database.Use) : (s.use path u).2.Kept path := by
  obtain ⟨p, hholds⟩ := h
  -- a use leaves the version, so what it leaves can be held as well
  have hcurrent : (s.db.use u).2.migrate = .ok (s.db.use u).2 := by
    rw [Database.migrate_eq_self_iff, Database.versions_use, ← Database.migrate_eq_self_iff]
    exact hholds.current
  have hput := hholds.put hcurrent
  rw [← hholds.saveDatabase] at hput
  exact ⟨p, hput⟩

/-- Closing and opening gives the same database. -/
theorem reopen_of_kept (h : s.Kept path) :
    ∃ s', s.reopen path = .ok s' ∧ s'.db = s.db ∧ s'.Kept path := by
  obtain ⟨p, hholds⟩ := h
  rw [reopen, hholds.openDatabase]
  exact ⟨_, rfl, rfl, p, hholds.put hholds.current⟩

/-- **Any number of events.** The database can be opened each time, and is what its uses make of
it. -/
theorem after_of_kept (h : s.Kept path) (events : List Event) :
    ∃ s', s.after path events = .ok s' ∧ s'.db = s.db.after (uses events) := by
  induction events generalizing s with
  | nil => exact ⟨s, rfl, rfl⟩
  | cons event events ih =>
    cases event with
    | used u => exact ih (kept_use h u)
    | reopened =>
      -- the database is the same as before, and the rest of the events begins with it
      obtain ⟨s₁, hreopen, hdb, hkept⟩ := reopen_of_kept h
      obtain ⟨s', hafter, hdb'⟩ := ih hkept
      refine ⟨s', ?_, hdb'.trans (hdb ▸ rfl)⟩
      rw [after, List.foldlM_cons, step, hreopen]
      exact hafter

end Shelf

/-! ### Agreement -/

namespace Cache

/-- The cache of a bucket is sound. -/
theorem sound_cache {name : String} (hname : Database.validBucket name = true) (db : Database) :
    (db.cache name).Sound := by
  rw [Database.cache_of_valid hname]
  exact fun _ => rfl

theorem get?_inMemory : inMemory.backing.get? = fun _ => none :=
  funext fun _ => Std.ExtTreeMap.getElem?_empty

/-- **Caches agree.** Let a bucket of a database be empty, and let the database be used, and closed
and opened again, in any way. A cache in memory that takes the steps carried out on the bucket
and the bucket itself give the same answer to the next step:

* it is the answer of the map of the values set last;
* removing a key that is not there succeeds and changes neither cache;
* if the database lies in a file, then it can be opened each time, and closing and opening it
  changes no answer. -/
theorem backings_agree {name : String} (hname : Database.validBucket name = true) (db : Database)
    (hempty : (db.cache name).backing.get? = fun _ => none) (events : List Shelf.Event)
    (step : Step) :
    let steps := Database.stepsOn name (Shelf.uses events)
    let memory := inMemory.after steps
    let used := db.after (Shelf.uses events)
    AnswerOf (lastSet (fun _ => none) steps) step (memory.perform step).1 ∧
      (used.use (.performed name step)).1 = (memory.perform step).1 ∧
      (∀ key, lastSet (fun _ => none) steps key = none →
        memory.perform (.delete key) = (.ok .done, memory) ∧
        (used.use (.performed name (.delete key))).1 = .ok .done ∧
        (used.use (.performed name (.delete key))).2.cache name = used.cache name) ∧
      ∀ path files files', FileTree.openDatabase files path = (.ok db, files') →
        ∃ shelf, Shelf.after path ⟨db, files'⟩ events = .ok shelf ∧
          (shelf.use path (.performed name step)).1 = (memory.perform step).1 := by
  intro steps memory used
  have hmemory : inMemory.Sound := fun _ => rfl
  have hbucket := sound_cache hname db
  have hused : used.cache name = (db.cache name).after steps := Database.cache_after hname db _
  have hanswer := answerOf_after hmemory steps step
  rw [get?_inMemory] at hanswer
  have hsame : (used.use (.performed name step)).1 = (memory.perform step).1 := by
    rw [Database.answer_performed hname, hused]
    -- both answers are those of one map, and a step has one answer
    refine AnswerOf.unique ?_ hanswer
    exact hempty ▸ answerOf_after hbucket steps step
  refine ⟨hanswer, hsame, fun key habsent => ?_, fun path files files' hopen => ?_⟩
  · have hdelete := delete_after_of_absent hmemory (get?_inMemory ▸ habsent)
    have hdelete' := delete_after_of_absent hbucket (hempty ▸ habsent)
    rw [← hused] at hdelete'
    rw [Database.answer_performed hname, Database.cache_performed hname, hdelete']
    exact ⟨hdelete, rfl, rfl⟩
  · obtain ⟨p, hholds⟩ := FileTree.holds_of_openDatabase hopen
    obtain ⟨shelf, hafter, hdb⟩ := Shelf.after_of_kept (s := ⟨db, files'⟩) ⟨p, hholds⟩ events
    refine ⟨shelf, hafter, ?_⟩
    rw [← hsame, Shelf.use, hdb]

/-- A bucket of a new database in a file: a value is set, the database is closed and opened, and
the value is read. -/
theorem backings_agree_requests :
    ∃ path files, FileTree.openDatabase {} path =
        (.ok { Database.empty with versions := [1] }, files) ∧
      ∃ shelf, Shelf.after path ⟨{ Database.empty with versions := [1] }, files⟩
          [.used (.performed "requests" (.set [] [1])), .reopened] = .ok shelf ∧
        (shelf.use path (.performed "requests" (.get []))).1 = .ok (.value [1]) := by
  obtain ⟨files, hopen⟩ := FileTree.openDatabase_default
  have hvalid : Database.validBucket "requests" = true := by decide
  have hempty : (Database.cache { Database.empty with versions := [1] } "requests").backing.get? =
      fun _ => none := by
    rw [Database.cache_of_valid hvalid, Database.bucket, Database.empty,
      Std.ExtTreeMap.getElem?_empty]
    rfl
  obtain ⟨-, -, -, hfile⟩ := backings_agree hvalid _ hempty
    [.used (.performed "requests" (.set [] [1])), .reopened] (.get [])
  obtain ⟨shelf, hafter, hanswer⟩ := hfile _ _ _ hopen
  refine ⟨_, files, hopen, shelf, hafter, hanswer.trans ?_⟩
  -- opening the database again is no step on the bucket
  have hsteps : Database.stepsOn "requests"
      (Shelf.uses [.used (.performed "requests" (.set [] [1])), .reopened]) = [.set [] [1]] := by
    simp [Shelf.uses, Database.stepsOn, Database.Use.step?]
  rw [hsteps]
  rfl

end Cache

end ReplayProxy
