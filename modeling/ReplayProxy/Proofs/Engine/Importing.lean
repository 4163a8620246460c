import Mathlib.Data.Finset.Card
import Mathlib.Data.Finset.Dedup
import ReplayProxy.Proofs.Engine.Reimport

/-!
# What an import does

An import goes over its archive three times: it decodes the entries and computes their
fingerprints, it writes the exchanges out, and it stores them. What comes of that is one fold over
the entries in their order. An entry counts if it is *readable* (`Import.Readable`): each of its
bodies that is flagged as base64 is base64. Readable entries are stored with their content types
filled in (`Import.exchanges`), all others are skipped, and neither sees the other.

What the records hold afterwards is read off the fold under each key
(`Change.get?_foldl_stored`), and the number of records off the set of their keys
(`Backing.count_storeEach`).

Main statement:

* `Engine.importArchive_updates`: an import of no entries fails; any other one stores the readable
  entries in their order and reports their number.
-/

namespace ReplayProxy

/-! ### The keys of a cache -/

namespace Backing

/-- The keys under which something is held. -/
def keySet (b : Backing) : Finset Bytes := (b.entries.map Prod.fst).toFinset

theorem mem_keySet {b : Backing} {key : Bytes} : key ∈ b.keySet ↔ b.get? key ≠ none := by
  rw [keySet, List.mem_toFinset, List.mem_map, Option.ne_none_iff_exists']
  constructor
  · rintro ⟨⟨_, value⟩, hentry, rfl⟩
    exact ⟨value, mem_entries_iff.1 hentry⟩
  · rintro ⟨value, hget⟩
    exact ⟨(key, value), mem_entries_iff.2 hget, rfl⟩

/-- Each key is listed once, so there are as many as entries. -/
theorem card_keySet (b : Backing) : b.keySet.card = b.count := by
  have hnodup : (b.entries.map Prod.fst).Nodup := by
    refine List.pairwise_map.2 (b.entries_ordered.imp fun {entry other} hlt hsame => ?_)
    rw [hsame, Std.compare_self] at hlt
    cases hlt
  rw [keySet, List.toFinset_card_of_nodup hnodup, List.length_map, count_eq_length]

theorem keySet_set (b : Backing) (key value : Bytes) :
    (b.set key value).keySet = insert key b.keySet := by
  ext k
  rw [mem_keySet, get?_set, Finset.mem_insert, mem_keySet]
  by_cases hkey : key = k
  · simp [hkey]
  · simp [hkey, Ne.symm hkey]

/-- Stores exchanges one after the other, each under the fingerprint of its request. -/
def storeEach (b : Backing) (xs : List Exchange) : Backing :=
  xs.foldl (fun b x => b.set x.request.key x.encode) b

theorem keySet_storeEach (b : Backing) (xs : List Exchange) :
    (b.storeEach xs).keySet = (xs.map fun x => x.request.key).toFinset ∪ b.keySet := by
  -- the rest of the list is stored over what the first exchange leaves
  induction xs generalizing b with
  | nil => simp [storeEach]
  | cons x xs ih =>
    have hstep : b.storeEach (x :: xs) = (b.set x.request.key x.encode).storeEach xs := rfl
    rw [hstep, ih, keySet_set, List.map_cons, List.toFinset_cons, Finset.insert_union,
      Finset.union_insert]

/-- As many entries are added as there are new keys. -/
theorem count_storeEach (b : Backing) (xs : List Exchange) :
    (b.storeEach xs).count =
      b.count + ((xs.map fun x => x.request.key).toFinset.filter fun key =>
        b.get? key = none).card := by
  have hnew : ((xs.map fun x => x.request.key).toFinset.filter fun key => b.get? key = none) =
      (xs.map fun x => x.request.key).toFinset \ b.keySet := by
    ext key
    rw [Finset.mem_filter, Finset.mem_sdiff, mem_keySet, not_not]
  rw [← card_keySet, keySet_storeEach, ← Finset.card_sdiff_add_card, card_keySet, hnew,
    Nat.add_comm]

end Backing

/-- On a medium that does not fail, changes that store are made one after the other. -/
theorem Change.foldl_stored_of_sound {c : Cache} (hsound : c.Sound) (xs : List Exchange) :
    (xs.map stored).foldl apply c = { c with backing := c.backing.storeEach xs } := by
  induction xs generalizing c with
  | nil => rfl
  | cons x xs ih =>
    rw [List.map_cons, List.foldl_cons, ih (sound_apply hsound _), apply_of_sound hsound]
    rfl

namespace Import

/-! ### Entries that count -/

/-- Each body of the entry that is flagged as base64 is base64. -/
def Readable (f : ExchangeForm) : Prop :=
  (f.request.encodedBody = true → (Base64.decode? f.request.body).isSome = true) ∧
    (f.response.encodedBody = true → (Base64.decode? f.response.body).isSome = true)

instance : DecidablePred Readable := fun _ => inferInstanceAs (Decidable (_ ∧ _))

theorem isOk_bodyOfForm (text : String) (encoded : Bool) :
    (bodyOfForm text encoded).isOk = true ↔
      (encoded = true → (Base64.decode? text).isSome = true) := by
  cases encoded with
  | false => simp [bodyOfForm, Except.isOk, Except.toBool]
  | true =>
    cases hdecode : Base64.decode? text <;> simp [bodyOfForm, hdecode, Except.isOk, Except.toBool]

/-- An entry is decoded exactly if it is readable. -/
theorem exists_exchange_iff {f : ExchangeForm} : (∃ x, f.exchange = .ok x) ↔ Readable f := by
  rw [Readable, ← isOk_bodyOfForm, ← isOk_bodyOfForm, ExchangeForm.exchange, RequestForm.request,
    ResponseForm.response]
  -- nothing else in an entry can fail to be read
  cases bodyOfForm f.request.body f.request.encodedBody with
  | error err => simp [Except.isOk, Except.toBool]
  | ok body =>
    cases bodyOfForm f.response.body f.response.encodedBody <;> simp [Except.isOk, Except.toBool]

/-- The exchanges that are stored for entries, in their order. -/
def exchanges (forms : List ExchangeForm) : List Exchange :=
  forms.filterMap fun f => f.exchange.toOption.map filled

theorem exchanges_cons_of_ok {f : ExchangeForm} {x : Exchange} (h : f.exchange = .ok x)
    (forms : List ExchangeForm) : exchanges (f :: forms) = filled x :: exchanges forms :=
  List.filterMap_cons_some (by rw [h]; rfl)

theorem exchanges_cons_of_not_readable {f : ExchangeForm} (h : ¬Readable f)
    (forms : List ExchangeForm) : exchanges (f :: forms) = exchanges forms := by
  refine List.filterMap_cons_none ?_
  cases hexchange : f.exchange with
  | error err => rfl
  | ok x => exact absurd (exists_exchange_iff.1 ⟨x, hexchange⟩) h

/-- An exchange is stored with its content type filled in, under the fingerprint it has then. -/
theorem entry_of_ok {f : ExchangeForm} {x : Exchange} (h : f.exchange = .ok x) :
    entry f = .ok ((filled x).request.fingerprint, filled x) := by
  rw [entry, h]
  rfl

/-- The entries in terms of the exchanges, and the number of those that are skipped. -/
theorem entries_eq (forms : List ExchangeForm) :
    entries forms =
      ((exchanges forms).map fun x => (x.request.fingerprint, x),
        forms.countP fun f => ¬Readable f) := by
  induction forms with
  | nil => rfl
  | cons f forms ih =>
    rw [entries, ih]
    -- a form is either an entry or counted as failed
    cases hexchange : f.exchange with
    | ok x =>
      have hreadable : Readable f := exists_exchange_iff.1 ⟨x, hexchange⟩
      simp [entry_of_ok hexchange, exchanges_cons_of_ok hexchange, hreadable]
    | error err =>
      have hentry : entry f = .error err := by
        rw [entry, hexchange]
        rfl
      have hnot : ¬Readable f := by
        rw [← exists_exchange_iff, hexchange]
        simp
      simp [hentry, exchanges_cons_of_not_readable hnot, hnot]

/-- Entries do not see what stands before or after them. -/
theorem entries_append (forms forms' : List ExchangeForm) :
    entries (forms ++ forms') =
      ((entries forms).1 ++ (entries forms').1, (entries forms).2 + (entries forms').2) := by
  have hexchanges : exchanges (forms ++ forms') = exchanges forms ++ exchanges forms' :=
    List.filterMap_append
  rw [entries_eq, entries_eq, entries_eq, hexchanges, List.map_append, List.countP_append]

theorem length_exchanges (forms : List ExchangeForm) :
    (exchanges forms).length = forms.countP fun f => Readable f := by
  induction forms with
  | nil => rfl
  | cons f forms ih =>
    by_cases hreadable : Readable f
    · obtain ⟨x, hx⟩ := exists_exchange_iff.2 hreadable
      rw [exchanges_cons_of_ok hx, List.length_cons, ih, List.countP_cons_of_pos (by simpa)]
    · rw [exchanges_cons_of_not_readable hreadable, ih, List.countP_cons_of_neg (by simpa)]

/-- What filling in a content type makes of a request: nothing, if it has one; and nothing but
that one value otherwise. -/
structure Fills (r r' : Request) : Prop where
  kept : ∀ value, r.headers.first? "Content-Type" = some value → r' = r
  given : r.headers.first? "Content-Type" = none →
    r'.headers.values "Content-Type" = [sniffContentType r.body]
  other : ∀ name, Ascii.sameLetters "Content-Type" name = false →
    r'.headers.values name = r.headers.values name
  rest : r' = { r with headers := r'.headers }

theorem fills_fillContentType {r : Request} (hr : r.headers.Canonical) :
    Fills r (fillContentType r) := by
  cases hfirst : r.headers.first? "Content-Type" with
  | some value =>
    rw [fillContentType_of_some hfirst]
    exact
      { kept := fun _ _ => rfl
        given := fun hnone => by simp [hfirst] at hnone
        other := fun _ _ => rfl
        rest := rfl }
  | none =>
    -- without a first value there is none at all, so the one that is added stands alone
    have hvalues : r.headers.values "Content-Type" = [] := List.head?_eq_none_iff.1 hfirst
    have hfilled : fillContentType r = r.addHeader "Content-Type" (sniffContentType r.body) := by
      rw [fillContentType, hfirst]
    rw [hfilled]
    exact
      { kept := fun value hsome => by simp [hfirst] at hsome
        given := fun _ => by
          show (r.headers.add "Content-Type" (sniffContentType r.body)).values "Content-Type" = _
          rw [hr.values_add, hvalues, List.nil_append]
        other := fun _ hname => hr.values_add_of_ne hname _
        rest := rfl }

end Import

namespace Engine

/-! ### The import -/

/-- A cache that does not fail takes all exchanges. -/
theorem storeAll_of_sound {c : Cache} (hsound : c.Sound) (xs : List Exchange) :
    storeAll c (xs.map fun x => (x.request.fingerprint, x)) =
      ({ c with backing := c.backing.storeEach xs }, xs.length) := by
  induction xs generalizing c with
  | nil => rfl
  | cons x xs ih =>
    have hrest := ih (c := { c with backing := c.backing.set x.request.key x.encode }) hsound
    rw [List.map_cons, storeAll, Cache.set_of_sound hsound]
    simp only [Request.key] at hrest
    simp only [hrest]
    rfl

/-- An archive that is not empty is imported, whatever is in it. -/
theorem importArchive_of_ne_nil {e : Engine} (hsound : e.requests.Sound) {a : Archive}
    (hne : a.data ≠ []) :
    e.importArchive a =
      .ok ((Import.exchanges a.data).length,
        { e with
          requests :=
            { e.requests with
              backing := e.requests.backing.storeEach (Import.exchanges a.data) } }) := by
  have hprepare : Import.prepare a = .ok (Import.entries a.data) := by
    rw [Import.prepare, if_neg (by simpa using hne)]
  rw [importArchive, hprepare, ok_bind, Import.entries_eq]
  simp only [storeAll_of_sound hsound]
  rfl

/-- What the import of an archive that is not empty comes to. -/
structure Imports (e : Engine) (a : Archive) (n : Nat) (e' : Engine) : Prop where
  /-- Nothing changes but the records. -/
  rest : e' = { e with requests := { e.requests with backing := e'.requests.backing } }
  /-- The number that is reported is that of the readable entries. -/
  counted : n = a.data.countP fun f => Import.Readable f
  /-- All others are skipped. -/
  skipped : ∃ entries failed, Import.prepare a = .ok (entries, failed) ∧
    n + failed = a.data.length
  /-- The readable entries are stored in their order, each under the fingerprint of its request
  with a content type. -/
  stored : e'.requests.backing = e.requests.backing.storeEach (Import.exchanges a.data)
  /-- So a later entry wins over an earlier one, and an entry over what was there before; and what
  lies under other fingerprints stays. -/
  held : ∀ key, e'.requests.backing.get? key =
    (((Import.exchanges a.data).findRev? fun x => x.request.key == key).map Exchange.encode).or
      (e.requests.backing.get? key)
  /-- There are as many more records as there are new fingerprints. -/
  grown : e'.requests.backing.count =
    e.requests.backing.count +
      (((Import.exchanges a.data).map fun x => x.request.key).toFinset.filter fun key =>
        e.requests.backing.get? key = none).card
  /-- An entry is stored as it is, but for a content type where there was none. -/
  filled : ∀ f ∈ a.data, ∀ x, f.exchange = .ok x →
    Import.Fills x.request (Import.filled x).request ∧
      Import.filled x = { x with request := (Import.filled x).request }

theorem imports_of_ne_nil {e : Engine} (hsound : e.requests.Sound) {a : Archive}
    (hne : a.data ≠ []) :
    ∃ n e', e.importArchive a = .ok (n, e') ∧ Imports e a n e' := by
  refine ⟨_, _, importArchive_of_ne_nil hsound hne, ?_⟩
  exact
    { rest := rfl
      counted := Import.length_exchanges a.data
      skipped := by
        have hprepare : Import.prepare a = .ok (Import.entries a.data) := by
          rw [Import.prepare, if_neg (by simpa using hne)]
        refine ⟨_, _, hprepare, ?_⟩
        -- the forms that are read and those that are not make up all forms
        rw [Import.length_exchanges, Import.entries_eq]
        simpa using (List.length_eq_countP_add_countP fun f => Import.Readable f).symm
      stored := rfl
      held := fun key => by
        -- a sequence of changes leaves what its last change under the key stores
        have hget := Change.get?_foldl_stored hsound (Import.exchanges a.data) key
        rwa [Change.foldl_stored_of_sound hsound] at hget
      grown := Backing.count_storeEach _ _
      filled := fun f _ x hx =>
        ⟨Import.fills_fillContentType (ExchangeForm.canonical_of_exchange hx).request, rfl⟩ }

/-- **Imports.** On a medium that does not fail,

* an import of no entries fails and changes nothing;
* any other import stores the readable entries in their order and reports how many they are;
* an entry that cannot be read makes no difference to the others, wherever it stands. -/
theorem importArchive_updates {e : Engine} (hsound : e.requests.Sound) :
    (e.importArchive ⟨[]⟩ = .error (.importing "nothing to import") ∧
      ∀ {σ : Type} (s : Surroundings σ) (w : σ), (e.act s (.importArchive ⟨[]⟩) w).1 = e) ∧
    (∀ a : Archive, a.data ≠ [] → ∃ n e', e.importArchive a = .ok (n, e') ∧ Imports e a n e') ∧
    ∀ (xs ys : List ExchangeForm) (f : ExchangeForm), ¬Import.Readable f → xs ++ ys ≠ [] →
      e.importArchive ⟨xs ++ f :: ys⟩ = e.importArchive ⟨xs ++ ys⟩ := by
  refine ⟨⟨rfl, fun _ _ => rfl⟩, fun a hne => imports_of_ne_nil hsound hne,
    fun xs ys f hnot hne => ?_⟩
  -- what an import leaves is determined by the exchanges, and the entry adds none
  have hexchanges : Import.exchanges (xs ++ f :: ys) = Import.exchanges (xs ++ ys) := by
    have hskip := Import.exchanges_cons_of_not_readable hnot ys
    simp only [Import.exchanges, List.filterMap_append] at hskip ⊢
    rw [hskip]
  rw [importArchive_of_ne_nil hsound (by simp), importArchive_of_ne_nil hsound hne]
  simp only [hexchanges]

/-- The order with a body that is not the base64 it claims to be. -/
def garbledForm : ExchangeForm :=
  { orderForm with request := { orderForm.request with encodedBody := true } }

/-- The order with another answer. -/
def amendedForm : ExchangeForm :=
  { orderForm with response := { status := 202, body := "made again" } }

/-- Of an order, a garbled one and the order with another answer, two are readable and have the
same fingerprint, and the later one is kept. -/
theorem importArchive_updates_orders :
    recorder.requests.Sound ∧ ¬Import.Readable garbledForm ∧
      recorder.importArchive ⟨[orderForm, garbledForm, amendedForm]⟩ =
        recorder.importArchive ⟨[orderForm, amendedForm]⟩ ∧
      ∃ e', ∃ x : Exchange,
        recorder.importArchive ⟨[orderForm, garbledForm, amendedForm]⟩ = .ok (2, e') ∧
        e'.requests.backing.count = 1 ∧ x.response.status = 202 ∧
          e'.requests.backing.get? x.request.key = some x.encode := by
  have hsound : recorder.requests.Sound := fun _ => rfl
  have hgarbled : ¬Import.Readable garbledForm := by decide +kernel
  obtain ⟨-, himports, hskips⟩ := importArchive_updates hsound
  obtain ⟨n, e', himport, h⟩ := himports ⟨[orderForm, garbledForm, amendedForm]⟩ (by simp)
  have hcounted : n = 2 := h.counted.trans (by decide +kernel)
  obtain ⟨x, hx⟩ : ∃ x, orderForm.exchange = .ok x := ⟨_, rfl⟩
  obtain ⟨y, hy⟩ : ∃ y, amendedForm.exchange = .ok y := ⟨_, rfl⟩
  -- both entries are for one request, so they have one fingerprint
  have hrequest : y.request = x.request := by
    cases hx
    cases hy
    rfl
  have hstatus : y.response.status = 202 := by
    cases hy
    rfl
  have hkey : (Import.filled y).request.key = (Import.filled x).request.key := by
    rw [Import.filled, Import.filled, hrequest]
  have hexchanges : Import.exchanges [orderForm, garbledForm, amendedForm] =
      [Import.filled x, Import.filled y] := by
    rw [Import.exchanges_cons_of_ok hx, Import.exchanges_cons_of_not_readable hgarbled,
      Import.exchanges_cons_of_ok hy]
    rfl
  have hempty : ∀ key, recorder.requests.backing.get? key = none := fun key => by
    simp [recorder, Cache.inMemory, Backing.get?]
  refine ⟨hsound, hgarbled, hskips [orderForm] [amendedForm] garbledForm hgarbled (by simp), e',
    Import.filled y, hcounted ▸ himport, ?_, hstatus, ?_⟩
  · -- two entries were stored, the second over the first
    have hnone : recorder.requests.backing.count = 0 := rfl
    rw [h.grown, hexchanges, hnone]
    simp [hempty, hkey]
  · rw [h.held, hexchanges]
    simp [List.findRev?]

end Engine

end ReplayProxy
