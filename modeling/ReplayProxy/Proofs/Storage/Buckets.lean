import ReplayProxy.Proofs.Storage.Reopening
import ReplayProxy.Proofs.Storage.Steps
import ReplayProxy.Proofs.Text.Letters
import ReplayProxy.Proofs.Text.Order

/-!
# Buckets of one database

Many buckets lie in one database, and are used in turn: a bucket is opened, or a step of a cache
is carried out on it (`Database.Use`). Of everything that happens, a bucket sees the steps that
were carried out on its own table (`Database.stepsOn`): its cache is what these steps alone make
of it (`Database.cache_after`). Opening a bucket is no such step, and neither is a step on another
table.

Whose steps these are is decided by the names. Tables are named in small letters, so a bucket
shares its table with the buckets whose names have the same letters (`Database.clash_iff`), and
only with those. The registry has the names as they were written.

Main statements:

* `Database.cache_after`: a bucket is changed by the steps on its own table only;
* `Database.buckets_isolated`: what this says of answers, and what is registered;
* `Database.letters_not_isolated`: two buckets that are listed separately and have one table.
-/

namespace ReplayProxy.Database

variable {db db' : Database} {name other : String}

/-! ### Names -/

/-- Names have one table if they differ in the case of letters only. -/
theorem clash_iff : Clash name other ↔ Ascii.lower name = Ascii.lower other := by
  rw [Clash, ← String.toList_inj, ← String.toList_inj]
  simp only [Ascii.toList_lower, String.toList_append, List.map_append, List.append_cancel_left_eq]

/-- The case of letters does not matter to whether a name can be that of a bucket. -/
theorem validBucket_lower (name : String) : validBucket (Ascii.lower name) = validBucket name := by
  have hempty : (Ascii.lower name).isEmpty = name.isEmpty := by
    rw [Bool.eq_iff_iff, String.isEmpty_iff, String.isEmpty_iff, ← String.toList_inj,
      ← String.toList_inj, Ascii.toList_lower]
    simp
  have hunderscore : ∀ c : Char, (c.toLower == '_') = (c == '_') := fun c => by
    rw [Bool.eq_iff_iff, beq_iff_eq, beq_iff_eq, Ascii.toLower_eq_underscore_iff]
  simp only [validBucket, hempty, Ascii.toList_lower, List.all_map, Function.comp_def,
    Ascii.isAlphanumeric_toLower, hunderscore]

theorem valid_of_sameLetters (h : Ascii.lower name = Ascii.lower other)
    (hvalid : validBucket other = true) : validBucket name = true := by
  rwa [← validBucket_lower, h, validBucket_lower]

/-! ### Uses -/

/-- What a database is used for. -/
inductive Use where
  /-- A bucket is opened. -/
  | opened (bucket : String)
  /-- A step of a cache is carried out on a bucket, which is opened for it. -/
  | performed (bucket : String) (step : Cache.Step)

namespace Use

/-- The bucket that is used. -/
def bucket : Use → String
  | .opened bucket => bucket
  | .performed bucket _ => bucket

/-- The step that is carried out on the table of a bucket, if there is one. -/
def step? (name : String) : Use → Option Cache.Step
  | .opened _ => none
  | .performed bucket step => if Ascii.sameLetters bucket name then some step else none

end Use

/-- Uses a database: the answer, and the database after it. A bucket that cannot be opened leaves
the database as it is. -/
def use (db : Database) (u : Use) : Except StorageError Cache.Answer × Database :=
  match db.openBucket u.bucket with
  | .error err => (.error err, db)
  | .ok db =>
    match u with
    | .opened _ => (.ok .done, db)
    | .performed bucket step =>
      let (answer, c) := (db.cache bucket).perform step
      (answer, db.store bucket c)

/-- The database after it was used. -/
def after (db : Database) (uses : List Use) : Database := uses.foldl (fun db u => (db.use u).2) db

/-- The steps that were carried out on the table of a bucket. -/
def stepsOn (name : String) (uses : List Use) : List Cache.Step := uses.filterMap (·.step? name)

/-- A step on a table leaves a table. -/
theorem perform_table (t : Table) (step : Cache.Step) :
    ∃ t' : Table,
      (({ backing := .table t } : Cache).perform step).2 = { backing := .table t' } := by
  have hsound : ({ backing := .table t } : Cache).Sound := fun _ => rfl
  cases step with
  | set key value =>
    rw [Cache.perform, Cache.set_of_sound hsound]
    exact ⟨_, rfl⟩
  | delete key =>
    rw [Cache.perform, Cache.delete_of_sound hsound]
    exact ⟨_, rfl⟩
  | clear =>
    rw [Cache.perform, Cache.clear_of_sound hsound]
    exact ⟨_, rfl⟩
  -- a step that only looks leaves the table
  | get | values | entries | count | keys => exact ⟨t, rfl⟩

theorem openBucket_of_invalid (h : validBucket name = false) (db : Database) :
    db.openBucket name = .error (.invalidBucket name) := by
  simp [openBucket, table?, tableName, h]

/-- Opening a bucket changes no bucket. -/
theorem cache_openBucket (hname : validBucket name = true) (hopen : db.openBucket other = .ok db') :
    db'.cache name = db.cache name := by
  cases hother : validBucket other with
  | false => cases (openBucket_of_invalid hother db).symm.trans hopen
  | true =>
    obtain ⟨db'', hopen', -, htables⟩ := openBucket_of_valid hother db
    cases hopen'.symm.trans hopen
    rw [cache_of_valid hname, cache_of_valid hname, htables]

theorem bucket_congr (h : Clash name other) (db : Database) : db.bucket name = db.bucket other := by
  rw [Database.bucket, Database.bucket, h]

/-- What a step on a bucket leaves is stored for the buckets of the same letters. -/
theorem cache_store_perform (hname : validBucket name = true) (hother : validBucket other = true)
    (db : Database) (step : Cache.Step) :
    (db.store other ((db.cache other).perform step).2).cache name =
      if Ascii.sameLetters other name then ((db.cache name).perform step).2 else db.cache name := by
  obtain ⟨t, ht⟩ := perform_table (db.bucket other) step
  rw [cache_of_valid hother, ht, store, cache_of_valid hname, cache_of_valid hname]
  by_cases hletters : Ascii.lower other = Ascii.lower name
  · have hclash : Clash other name := clash_iff.2 hletters
    rw [if_pos (Ascii.sameLetters_iff.2 hletters), ← bucket_congr hclash, ← bucket_congr hclash, ht,
      bucket_putTable_self]
  · rw [if_neg (mt Ascii.sameLetters_iff.1 hletters),
      bucket_putTable_of_ne (mt clash_iff.1 hletters)]

/-- **One use, seen from a bucket.** Only a step on its own table changes it. -/
theorem cache_use (hname : validBucket name = true) (db : Database) (u : Use) :
    (db.use u).2.cache name = (db.cache name).after (u.step? name).toList := by
  unfold use
  cases u with
  | opened bucket =>
    cases hopen : db.openBucket (Use.opened bucket).bucket with
    | error err => rfl
    | ok db' => exact cache_openBucket hname hopen
  | performed bucket step =>
    rw [Use.step?, Use.bucket]
    cases hbucket : validBucket bucket with
    | false =>
      -- a name that is refused has not the letters of one that is not
      have hletters : ¬Ascii.sameLetters bucket name = true := fun hletters => by
        rw [valid_of_sameLetters (Ascii.sameLetters_iff.1 hletters) hname] at hbucket
        cases hbucket
      rw [openBucket_of_invalid hbucket, if_neg hletters]
      rfl
    | true =>
      obtain ⟨db', hopen, -, -⟩ := openBucket_of_valid hbucket db
      rw [hopen]
      refine (cache_store_perform hname hbucket db' step).trans ?_
      rw [cache_openBucket hname hopen]
      split <;> rfl

theorem cache_performed (hname : validBucket name = true) (db : Database) (step : Cache.Step) :
    (db.use (.performed name step)).2.cache name = ((db.cache name).perform step).2 := by
  rw [cache_use hname, Use.step?, if_pos (Ascii.sameLetters_iff.2 rfl)]
  rfl

/-- **Any number of uses, seen from a bucket.** It is what the steps on its own table make of
it. -/
theorem cache_after (hname : validBucket name = true) (db : Database) (uses : List Use) :
    (db.after uses).cache name = (db.cache name).after (stepsOn name uses) := by
  induction uses generalizing db with
  | nil => rfl
  | cons u uses ih =>
    -- the steps of the later uses start from what the first one left
    have hstep := ih (db.use u).2
    rw [cache_use hname] at hstep
    refine hstep.trans ?_
    rw [stepsOn, stepsOn, List.filterMap_cons]
    cases u.step? name <;> rfl

/-- A step on a bucket is answered by its cache. -/
theorem answer_performed (hname : validBucket name = true) (db : Database) (step : Cache.Step) :
    (db.use (.performed name step)).1 = ((db.cache name).perform step).1 := by
  obtain ⟨db', hopen, -, -⟩ := openBucket_of_valid hname db
  rw [use, Use.bucket, hopen, ← cache_openBucket hname hopen]

/-- The answer to a use is a matter of the cache of its bucket. -/
theorem answer_use_congr {u : Use} (hbucket : validBucket u.bucket = true)
    (hcache : db.cache u.bucket = db'.cache u.bucket) : (db.use u).1 = (db'.use u).1 := by
  cases u with
  | opened bucket =>
    -- opening a bucket has one answer, whatever is in it
    have hanswer : ∀ db : Database, (db.use (.opened bucket)).1 = .ok .done := fun db => by
      obtain ⟨db', hopen, -, -⟩ := openBucket_of_valid hbucket db
      rw [use, hopen]
    rw [hanswer, hanswer]
  | performed bucket step =>
    have hname : validBucket bucket = true := hbucket
    rw [answer_performed hname, answer_performed hname]
    exact congrArg (fun c => (c.perform step).1) hcache

/-- Uses that are no steps on the table of a bucket can be left out. -/
theorem stepsOn_filter (name : String) (uses : List Use) :
    stepsOn name (uses.filter fun u => (u.step? name).isSome) = stepsOn name uses := by
  rw [stepsOn, stepsOn, List.filterMap_filter]
  refine congrFun (congrArg List.filterMap (funext fun u => ?_)) uses
  cases u.step? name <;> rfl

/-! ### Version and registry -/

/-- Uses leave the versions of the layout. -/
theorem versions_use (db : Database) (u : Use) : (db.use u).2.versions = db.versions := by
  cases hbucket : validBucket u.bucket with
  | false => rw [use, openBucket_of_invalid hbucket]
  | true =>
    obtain ⟨db', hopen, hversions, -⟩ := openBucket_of_valid hbucket db
    rw [← hversions, use, hopen]
    cases u with
    | opened bucket => rfl
    | performed bucket step =>
      show (db'.store bucket _).versions = db'.versions
      unfold store
      split <;> rfl

theorem registry_store (db : Database) (bucket : String) (c : Cache) :
    (db.store bucket c).registry = db.registry := by
  unfold store
  split <;> rfl

/-- A use registers the bucket, once, if its name can be that of a bucket. -/
theorem registry_use (db : Database) (u : Use) :
    (db.use u).2.registry =
      if validBucket u.bucket = true ∧ u.bucket ∉ db.registry then db.registry ++ [u.bucket]
      else db.registry := by
  cases hbucket : validBucket u.bucket with
  | false =>
    rw [use, openBucket_of_invalid hbucket]
    simp
  | true =>
    -- it is opening that registers, and the step behind it leaves the registry
    have hopen : ∃ db', db.openBucket u.bucket = .ok db' ∧
        db'.registry =
          if u.bucket ∉ db.registry then db.registry ++ [u.bucket] else db.registry := by
      rw [openBucket, table?_of_valid hbucket]
      refine ⟨_, rfl, ?_⟩
      by_cases hmem : u.bucket ∈ db.registry <;> simp [hmem]
    obtain ⟨db', hopen, hregistry⟩ := hopen
    simp only [true_and]
    rw [← hregistry, use, hopen]
    cases u with
    | opened bucket => rfl
    | performed bucket step => exact registry_store _ _ _

theorem mem_registry_use (db : Database) (u : Use) :
    name ∈ (db.use u).2.registry ↔
      name ∈ db.registry ∨ validBucket name = true ∧ u.bucket = name := by
  rw [registry_use]
  by_cases hnew : validBucket u.bucket = true ∧ u.bucket ∉ db.registry
  · rw [if_pos hnew, List.mem_append, List.mem_singleton]
    refine or_congr_right ⟨?_, fun h => h.2.symm⟩
    rintro rfl
    exact ⟨hnew.1, rfl⟩
  · -- the bucket is there already, or its name is refused
    rw [if_neg hnew]
    refine ⟨.inl, ?_⟩
    rintro (hold | ⟨hvalid, rfl⟩)
    · exact hold
    · exact Decidable.not_not.1 fun hnot => hnew ⟨hvalid, hnot⟩

theorem nodup_registry_use (h : db.registry.Nodup) (u : Use) : (db.use u).2.registry.Nodup := by
  rw [registry_use]
  split
  · next hnew =>
    refine List.nodup_append.2 ⟨h, by simp, fun a ha b hb heq => hnew.2 ?_⟩
    rwa [← List.mem_singleton.1 hb, ← heq]
  · exact h

/-- **The registry.** The names of the buckets that were used, each once. -/
theorem registry_after (hdistinct : db.registry.Nodup) (uses : List Use) :
    (db.after uses).registry.Nodup ∧
      ∀ name, name ∈ (db.after uses).registry ↔
        name ∈ db.registry ∨ validBucket name = true ∧ ∃ u ∈ uses, u.bucket = name := by
  induction uses generalizing db with
  | nil => exact ⟨hdistinct, by simp [after]⟩
  | cons u uses ih =>
    obtain ⟨hnodup, hmem⟩ := ih (nodup_registry_use hdistinct u)
    refine ⟨hnodup, fun name => (hmem name).trans ?_⟩
    -- a name is registered by the first use or by a later one
    rw [mem_registry_use, or_assoc, ← and_or_left]
    simp only [List.mem_cons, exists_eq_or_imp]

theorem mem_buckets : name ∈ db.buckets ↔ name ∈ db.registry := List.mem_mergeSort

/-- Registered names are listed in the order of their bytes. -/
theorem buckets_ordered (hdistinct : db.registry.Nodup) :
    db.buckets.Pairwise fun a b => Bytes.ofText a < Bytes.ofText b := by
  have hsorted : db.buckets.Pairwise (· ≤ ·) := Text.pairwise_sort db.registry
  have hnodup : db.buckets.Nodup := (List.mergeSort_perm db.registry _).nodup_iff.2 hdistinct
  -- distinct names in weak order are in strict order
  refine (hsorted.and hnodup).imp fun {a b} h => Bytes.ofText_lt_ofText_iff.2 ?_
  exact String.not_le.1 fun hle => h.2 (String.le_antisymm h.1 hle)

/-! ### Isolation -/

/-- **Buckets of one database.** However the buckets of a database are used, starting with one
that has none registered:

* a use is answered as if nothing had been done before but the steps on the same table, which are
  those on buckets whose names have the same letters;
* opening a bucket changes no cache;
* buckets whose names have the same letters have the same entries;
* the buckets that were opened are listed, each once, in the order of the bytes of their names. -/
theorem buckets_isolated (hnew : db.registry = []) (uses : List Use) :
    (∀ u, validBucket u.bucket = true →
      ((db.after uses).use u).1 =
        ((db.after (uses.filter fun v => (v.step? u.bucket).isSome)).use u).1) ∧
    (∀ name other, validBucket name = true →
      ((db.after uses).use (.opened other)).2.cache name = (db.after uses).cache name) ∧
    (∀ name other, validBucket name = true → Ascii.lower name = Ascii.lower other →
      (db.after uses).cache name = (db.after uses).cache other) ∧
    (∀ name, name ∈ (db.after uses).buckets ↔
      validBucket name = true ∧ ∃ u ∈ uses, u.bucket = name) ∧
    (db.after uses).buckets.Pairwise fun a b => Bytes.ofText a < Bytes.ofText b := by
  obtain ⟨hnodup, hregistry⟩ := registry_after (hnew ▸ List.nodup_nil) uses
  have hmem : ∀ name, name ∈ (db.after uses).registry ↔
      validBucket name = true ∧ ∃ u ∈ uses, u.bucket = name := fun name => by
    rw [hregistry, hnew]
    simp
  -- each clause is a matter of the steps on one table, or of the registry
  refine ⟨fun u hbucket => ?_, fun name other hname => cache_use hname _ _,
    fun name other hname hletters => ?_, fun name => mem_buckets.trans (hmem name),
    buckets_ordered hnodup⟩
  · refine answer_use_congr hbucket ?_
    rw [cache_after hbucket, cache_after hbucket, stepsOn_filter]
  · rw [cache_of_valid hname, cache_of_valid (valid_of_sameLetters hletters.symm hname),
      bucket_congr (clash_iff.2 hletters)]

/-- Two buckets in use, and a third whose name is refused. -/
theorem buckets_isolated_requests :
    Database.empty.registry = [] ∧
      "requests" ∈ (Database.empty.after [.opened "requests", .performed "a b" .clear,
        .performed "metadata" (.set [1] [2])]).buckets :=
  have hnew : Database.empty.registry = [] := rfl
  ⟨hnew, ((buckets_isolated hnew _).2.2.2.1 "requests").2
    ⟨by decide, .opened "requests", by simp, rfl⟩⟩

/-- Two buckets whose names differ in the case of a letter. They are listed separately, and what
is set in one of them is counted in the other. -/
theorem letters_not_isolated :
    "A" ≠ "a" ∧ validBucket "A" = true ∧ validBucket "a" = true ∧
      (Database.empty.use (.performed "a" .count)).1 = .ok (.count 0) ∧
      ((Database.empty.after [.performed "A" (.set [107] [118])]).use (.performed "a" .count)).1 =
        .ok (.count 1) ∧
      (Database.empty.after [.performed "A" (.set [107] [118]), .performed "a" .count]).buckets =
        ["A", "a"] := by
  have hvalid : validBucket "a" = true := by decide
  have hletters : Ascii.sameLetters "A" "a" = true := by
    rw [Ascii.sameLetters_iff, ← String.toList_inj, Ascii.toList_lower, Ascii.toList_lower]
    decide
  have hempty : Database.empty.cache "a" = { backing := .table .empty } := by
    rw [cache_of_valid hvalid, bucket, Database.empty, Std.ExtTreeMap.getElem?_empty]
    rfl
  -- a step on the one name is a step on the other
  have hsteps : stepsOn "a" [.performed "A" (.set [107] [118])] = [.set [107] [118]] := by
    have hstep : Use.step? "a" (.performed "A" (.set [107] [118])) = some (.set [107] [118]) :=
      if_pos hletters
    rw [stepsOn, List.filterMap_cons_some hstep, List.filterMap_nil]
  refine ⟨by decide, by decide, hvalid, ?_, ?_, ?_⟩
  · rw [answer_performed hvalid, hempty]
    rfl
  · rw [answer_performed hvalid, cache_after hvalid, hsteps, hempty]
    rfl
  · have hregistry : ∀ uses : List Use, (Database.empty.after uses).registry = ["A", "a"] →
        (Database.empty.after uses).buckets = ["A", "a"] := fun uses h => by
      rw [buckets, h]
      exact List.mergeSort_of_pairwise (by decide)
    refine hregistry _ ?_
    rw [after, List.foldl_cons, List.foldl_cons, List.foldl_nil, registry_use, registry_use]
    decide

end ReplayProxy.Database
