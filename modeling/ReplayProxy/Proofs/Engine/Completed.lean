import ReplayProxy.Proofs.Engine.Importing
import ReplayProxy.Proofs.Storage.Steps

/-!
# Archives that were imported before

An import leaves exchanges *complete* (`Import.Complete`): the names of their headers are canonical,
and their requests have a content type. A complete exchange is stored as it is. So whatever an
archive holds, preparing once more what was prepared from it changes nothing, and loses nothing
either, since the form of an exchange can always be read.

Stores follow. The exchanges of a store lie under their fingerprints and are listed without
repetition, so that storing the list again makes the same store (`Cache.Keyed.get?_storeEach`). A
store that holds complete exchanges alone can therefore be exported and imported any number of
times (`Engine.handOn`): one step is `Engine.records_imported`, and the run is an induction over the
engines that it goes through.

Main statement:

* `Engine.import_projects`: a second import changes neither an archive nor a store.
-/

namespace ReplayProxy

namespace Import

/-! ### Complete exchanges -/

/-- The exchange is as an import leaves it. -/
structure Complete (x : Exchange) : Prop where
  canonical : x.Canonical
  typed : x.request.headers.first? "Content-Type" ≠ none

theorem complete_filled {x : Exchange} (h : x.Canonical) : Complete (filled x) := by
  have hfills : Fills x.request (filled x).request := fills_fillContentType h.request
  refine ⟨canonical_filled h, ?_⟩
  -- a content type was there, or it is there now
  cases hfirst : x.request.headers.first? "Content-Type" with
  | some value =>
    rw [hfills.kept value hfirst, hfirst]
    exact Option.some_ne_none value
  | none =>
    rw [Headers.first?, hfills.given hfirst]
    exact Option.some_ne_none _

theorem Complete.filled_eq {x : Exchange} (h : Complete x) : filled x = x := by
  obtain ⟨value, hfirst⟩ := Option.ne_none_iff_exists'.1 h.typed
  rw [filled, fillContentType_of_some hfirst]

theorem complete_of_mem_exchanges {forms : List ExchangeForm} {x : Exchange}
    (hx : x ∈ exchanges forms) : Complete x := by
  obtain ⟨f, -, hf⟩ := List.mem_filterMap.1 hx
  cases hexchange : f.exchange with
  | error err => simp [hexchange, Except.toOption] at hf
  | ok y =>
    obtain rfl : filled y = x := by simpa [hexchange, Except.toOption] using hf
    exact complete_filled (ExchangeForm.canonical_of_exchange hexchange)

/-- Complete exchanges are prepared as they are. -/
theorem prepare_ofExchange {xs : List Exchange} (hne : xs ≠ []) (h : ∀ x ∈ xs, Complete x) :
    prepare ⟨xs.map .ofExchange⟩ = .ok (xs.map fun x => (x.request.fingerprint, x), 0) := by
  have hfilled : (xs.map fun x => ((filled x).request.fingerprint, filled x)) =
      xs.map fun x => (x.request.fingerprint, x) := by
    refine List.map_congr_left ?_
    intro x hx
    rw [(h x hx).filled_eq]
  calc prepare ⟨xs.map .ofExchange⟩
      = .ok (entries (xs.map .ofExchange)) := by rw [prepare, if_neg (by simpa using hne)]
    _ = .ok (xs.map fun x => ((filled x).request.fingerprint, filled x), 0) := by
        rw [entries_ofExchange fun x hx => (h x hx).canonical]
    _ = .ok (xs.map fun x => (x.request.fingerprint, x), 0) := by rw [hfilled]

/-- What was prepared is prepared once more as it is. -/
theorem prepare_prepared {a : Archive} {entries : List (String × Exchange)} {failed : Nat}
    (h : prepare a = .ok (entries, failed)) (hne : entries ≠ []) :
    prepare ⟨entries.map fun entry => .ofExchange entry.2⟩ = .ok (entries, 0) := by
  obtain rfl : entries = (exchanges a.data).map fun x => (x.request.fingerprint, x) := by
    rw [Engine.prepare_eq_ok h, entries_eq]
  rw [List.map_map]
  refine prepare_ofExchange ?_ ?_
  · intro hnil
    rw [hnil] at hne
    exact hne rfl
  · intro x hx
    exact complete_of_mem_exchanges hx

end Import

/-! ### Stores of complete exchanges -/

namespace Backing

/-- Two stores that hold the same list the same. -/
theorem entries_eq_of_get? {b b' : Backing} (h : ∀ key, b.get? key = b'.get? key) :
    b.entries = b'.entries := by
  have hget : (fun key => b.get? key) = fun key => b'.get? key := funext h
  -- a listing in the order of keys is determined by what is held
  have hlists := Cache.lists_entries b
  rw [hget] at hlists
  exact hlists.unique (Cache.lists_entries b')

theorem get?_storeEach (b : Backing) (xs : List Exchange) (key : Bytes) :
    (b.storeEach xs).get? key =
      ((xs.findRev? fun x => x.request.key == key).map Exchange.encode).or (b.get? key) := by
  have hsound : ({ backing := b } : Cache).Sound := fun _ => rfl
  have hget := Change.get?_foldl_stored hsound xs key
  rwa [Change.foldl_stored_of_sound hsound] at hget

/-- What is held after exchanges were stored where nothing was is one of them. -/
theorem exists_of_get?_storeEach {b : Backing} (hempty : b.entries = []) {xs : List Exchange}
    {key value : Bytes} (h : (b.storeEach xs).get? key = some value) :
    ∃ x ∈ xs, x.request.key = key ∧ x.encode = value := by
  rw [get?_storeEach, Engine.get?_of_entries_eq_nil hempty, Option.or_none] at h
  obtain ⟨x, hx, hencode⟩ := Option.map_eq_some_iff.1 h
  rw [List.findRev?_eq_find?_reverse] at hx
  have hkey : x.request.key = key := by simpa using List.find?_some hx
  exact ⟨x, List.mem_reverse.1 (List.mem_of_find?_eq_some hx), hkey, hencode⟩

end Backing

namespace Cache

/-- The exchanges of a store, stored where nothing was, are held as they were. -/
theorem Keyed.get?_storeEach {c : Cache} (h : c.Keyed) {b : Backing} (hempty : b.entries = [])
    (key : Bytes) : (b.storeEach c.exchanges).get? key = c.backing.get? key := by
  rw [Backing.get?_storeEach, Engine.get?_of_entries_eq_nil hempty, Option.or_none,
    List.findRev?_eq_find?_reverse]
  -- what is stored last under a key is the only exchange that has it
  cases hfind : c.exchanges.reverse.find? fun x => x.request.key == key with
  | some x =>
    have hx : x ∈ c.exchanges := List.mem_reverse.1 (List.mem_of_find?_eq_some hfind)
    have hkey : x.request.key = key := by simpa using List.find?_some hfind
    rw [← hkey]
    exact (h.mem_exchanges_iff.1 hx).2.symm
  | none =>
    refine (Option.eq_none_iff_forall_ne_some.2 ?_).symm
    intro value hget
    -- what is held would have been found among the exchanges
    obtain ⟨x, hcanonical, rfl, rfl⟩ := h key value hget
    have hx : x ∈ c.exchanges := h.mem_exchanges_iff.2 ⟨hcanonical, hget⟩
    have hnot := List.find?_eq_none.1 hfind x (List.mem_reverse.2 hx)
    exact hnot (beq_self_eq_true _)

/-- **The invariant.** The cache is keyed, and all its exchanges are complete. -/
structure Completed (c : Cache) : Prop where
  keyed : c.Keyed
  complete : ∀ x ∈ c.exchanges, Import.Complete x

/-- It is a matter of what is listed. -/
theorem Completed.of_entries {c c' : Cache} (h : c.Completed)
    (hentries : c'.backing.entries = c.backing.entries) : c'.Completed where
  keyed key value hget := by
    have hmem := Backing.mem_entries_iff.2 hget
    rw [hentries] at hmem
    exact h.keyed key value (Backing.mem_entries_iff.1 hmem)
  complete x hx := by
    rw [exchanges, hentries] at hx
    exact h.complete x hx

/-- Complete exchanges that are stored where nothing was make a completed cache. -/
theorem completed_of_storeEach {c : Cache} {b : Backing} (hempty : b.entries = [])
    {xs : List Exchange} (hxs : ∀ x ∈ xs, Import.Complete x)
    (hbacking : c.backing = b.storeEach xs) : c.Completed := by
  have hkeyed : c.Keyed := by
    intro key value hget
    rw [hbacking] at hget
    obtain ⟨x, hx, rfl, rfl⟩ := Backing.exists_of_get?_storeEach hempty hget
    exact ⟨x, (hxs x hx).canonical, rfl, rfl⟩
  refine ⟨hkeyed, ?_⟩
  intro x hx
  obtain ⟨hcanonical, hget⟩ := hkeyed.mem_exchanges_iff.1 hx
  rw [hbacking] at hget
  obtain ⟨y, hy, -, hencode⟩ := Backing.exists_of_get?_storeEach hempty hget
  -- the two have one stored form, from which both are read back
  have hdecode := Exchange.decode_encode (hxs y hy).canonical
  rw [hencode, Exchange.decode_encode hcanonical] at hdecode
  rw [Except.ok.inj hdecode]
  exact hxs y hy

end Cache

namespace Engine

/-! ### From engine to engine -/

/-- The engine has no records, on a medium that does not fail. -/
structure Fresh (e : Engine) : Prop where
  sound : e.requests.Sound
  empty : e.requests.backing.entries = []

/-- The last engine of a row: each one exports its records, and the next one imports them from
their text. -/
def handOn (e : Engine) : List Engine → Except ProxyError Engine
  | [] => .ok e
  | next :: rest => do
    let a ← e.records
    let a ← (Archive.parse (Bytes.ofText a.text)).mapError .json
    let (_, next) ← next.importArchive a
    next.handOn rest

/-- An engine that holds nothing but complete exchanges gives its records as an archive, and a
fresh engine that imports the archive holds the same. -/
theorem records_imported {e : Engine} (hsound : e.requests.Sound)
    (hcompleted : e.requests.Completed) (hsome : e.requests.backing.entries ≠ []) {next : Engine}
    (hfresh : next.Fresh) :
    ∃ a n e', e.records = .ok a ∧ next.importArchive a = .ok (n, e') ∧ e'.requests.Sound ∧
      e'.requests.backing.entries = e.requests.backing.entries := by
  have hkeyed : e.requests.Keyed := hcompleted.keyed
  have hne : e.requests.exchanges ≠ [] := by
    intro hnil
    rw [hkeyed.entries_eq, hnil] at hsome
    exact hsome rfl
  obtain ⟨a, -, hrecords, -⟩ := (register_of_keyed hkeyed).answered hsound
  have hdata : a.data = e.requests.exchanges.map .ofExchange := records_eq_ok hrecords
  -- the exchanges are complete, so preparing them changes none
  have hexchanges : Import.exchanges a.data = e.requests.exchanges := by
    have hprepare := Import.prepare_ofExchange hne hcompleted.complete
    have hentries := congrArg Prod.fst (Import.entries_eq a.data)
    rw [hdata, ← prepare_eq_ok hprepare] at hentries
    rw [hdata]
    exact (List.map_injective_iff.2 fun x y h => (Prod.mk.inj h).2) hentries.symm
  -- what a fresh engine imports is what it holds then, under the same keys
  have himport := importArchive_of_ne_nil hfresh.sound (a := a) (by
    rw [hdata]
    simpa using hne)
  refine ⟨a, _, _, hrecords, himport, hfresh.sound, ?_⟩
  rw [hexchanges]
  exact Backing.entries_eq_of_get? (hkeyed.get?_storeEach hfresh.empty)

/-- So the records go through any row of fresh engines. -/
theorem handOn_eq_ok {e : Engine} (hsound : e.requests.Sound) (hcompleted : e.requests.Completed)
    (hsome : e.requests.backing.entries ≠ []) {row : List Engine}
    (hrow : ∀ next ∈ row, next.Fresh) :
    ∃ e', e.handOn row = .ok e' ∧
      e'.requests.backing.entries = e.requests.backing.entries := by
  induction row generalizing e with
  | nil => exact ⟨e, rfl, rfl⟩
  | cons next row ih =>
    obtain ⟨hnext, hrow⟩ := List.forall_mem_cons.1 hrow
    obtain ⟨a, n, e', hrecords, himport, hsound', hentries⟩ :=
      records_imported hsound hcompleted hsome hnext
    -- the next engine holds what this one held, and so meets all conditions again
    obtain ⟨last, hlast, hsame⟩ :=
      ih hsound' (hcompleted.of_entries hentries) (by rwa [hentries]) hrow
    refine ⟨last, ?_, hsame.trans hentries⟩
    rw [handOn, hrecords, ok_bind, Archive.parse_text]
    show (do
      let (_, next) ← next.importArchive a
      next.handOn row) = _
    rw [himport]
    exact hlast

/-- An import of some readable entry leaves records, all of them complete. -/
theorem completed_of_import {e : Engine} (hfresh : e.Fresh) {a : Archive} {f : ExchangeForm}
    (hf : f ∈ a.data) {x : Exchange} (hx : f.exchange = .ok x) :
    ∃ n e', e.importArchive a = .ok (n, e') ∧ e'.requests.Sound ∧ e'.requests.Completed ∧
      e'.requests.backing.entries ≠ [] := by
  have hstored : Import.filled x ∈ Import.exchanges a.data :=
    List.mem_filterMap.2 ⟨f, hf, by rw [hx]; rfl⟩
  have himport := importArchive_of_ne_nil hfresh.sound (List.ne_nil_of_mem hf)
  refine ⟨_, _, himport, hfresh.sound, ?_, ?_⟩
  · -- whatever was imported has been filled in
    exact Cache.completed_of_storeEach hfresh.empty
      (fun y hy => Import.complete_of_mem_exchanges hy) rfl
  · show (e.requests.backing.storeEach (Import.exchanges a.data)).entries ≠ []
    -- the import leaves something, since what it stored under this key is found there
    intro hnil
    have hnone := get?_of_entries_eq_nil hnil (Import.filled x).request.key
    rw [Backing.get?_storeEach, get?_of_entries_eq_nil hfresh.empty, Option.or_none,
      Option.map_eq_none_iff, List.findRev?_eq_find?_reverse, List.find?_eq_none] at hnone
    exact hnone _ (List.mem_reverse.2 hstored) (beq_self_eq_true _)

/-- **Importing is a projection.**

* What is prepared from an archive, if it is anything, is prepared from its own forms once more:
  the same exchanges under the same fingerprints in the same order, and none is left out.
* An archive that has a readable entry can be imported by a fresh engine, and the records of this
  engine go through any row of fresh engines: the last one holds the same keys and values, byte for
  byte, whatever medium each engine keeps them on. -/
theorem import_projects :
    (∀ (a : Archive) (entries : List (String × Exchange)) (failed : Nat),
      Import.prepare a = .ok (entries, failed) → entries ≠ [] →
        Import.prepare ⟨entries.map fun entry => .ofExchange entry.2⟩ = .ok (entries, 0)) ∧
    ∀ (a : Archive) (first : Engine), first.Fresh → (∃ f ∈ a.data, ∃ x, f.exchange = .ok x) →
      ∃ n e, first.importArchive a = .ok (n, e) ∧
        ∀ row : List Engine, (∀ next ∈ row, next.Fresh) →
          ∃ e', e.handOn row = .ok e' ∧
            e'.requests.backing.entries = e.requests.backing.entries := by
  constructor
  · intro a entries failed hprepare hne
    exact Import.prepare_prepared hprepare hne
  · rintro a first hfresh ⟨f, hf, x, hx⟩
    obtain ⟨n, e, himport, hsound, hcompleted, hsome⟩ := completed_of_import hfresh hf hx
    refine ⟨n, e, himport, ?_⟩
    intro row hrow
    exact handOn_eq_ok hsound hcompleted hsome hrow

/-- A recorder that keeps its records in a table. -/
def tabled : Engine := { recorder with requests := { backing := .table .empty } }

theorem fresh_recorder : recorder.Fresh := ⟨fun _ => rfl, rfl⟩

theorem fresh_tabled : tabled.Fresh := ⟨fun _ => rfl, List.mergeSort_nil⟩

/-- Of a garbled entry and an order without a content type, the order is prepared, with a content
type; prepared once more it stays as it is, and so it does on its way from memory into a table and
back. -/
theorem import_projects_order :
    recorder.Fresh ∧ tabled.Fresh ∧ ∃ x, orderForm.exchange = .ok x ∧
      x.request.headers.first? "Content-Type" = none ∧
      Import.prepare ⟨[garbledForm, orderForm]⟩ =
        .ok ([((Import.filled x).request.fingerprint, Import.filled x)], 1) ∧
      Import.prepare ⟨[.ofExchange (Import.filled x)]⟩ =
        .ok ([((Import.filled x).request.fingerprint, Import.filled x)], 0) ∧
      ∃ n e e', recorder.importArchive ⟨[garbledForm, orderForm]⟩ = .ok (n, e) ∧
        e.handOn [tabled, recorder] = .ok e' ∧
        e'.requests.backing.entries = e.requests.backing.entries := by
  obtain ⟨x, hx, hnone⟩ : ∃ x, orderForm.exchange = .ok x ∧
      x.request.headers.first? "Content-Type" = none := ⟨_, rfl, rfl⟩
  have hgarbled : ¬Import.Readable garbledForm := by decide +kernel
  have hprepare : Import.prepare ⟨[garbledForm, orderForm]⟩ =
      .ok ([((Import.filled x).request.fingerprint, Import.filled x)], 1) := by
    have hreadable : Import.Readable orderForm := Import.exists_exchange_iff.1 ⟨x, hx⟩
    rw [Import.prepare, if_neg (by simp), Import.entries_eq,
      Import.exchanges_cons_of_not_readable hgarbled, Import.exchanges_cons_of_ok hx]
    simp [Import.exchanges, hgarbled, hreadable]
  obtain ⟨hagain, hstores⟩ := import_projects
  obtain ⟨n, e, himport, hrows⟩ := hstores ⟨[garbledForm, orderForm]⟩ recorder fresh_recorder
    ⟨orderForm, by simp, x, hx⟩
  obtain ⟨e', hrow, hentries⟩ := hrows [tabled, recorder] (by simp [fresh_tabled, fresh_recorder])
  exact ⟨fresh_recorder, fresh_tabled, x, hx, hnone, hprepare, hagain _ _ _ hprepare (by simp), n,
    e, e', himport, hrow, hentries⟩

end Engine

end ReplayProxy
