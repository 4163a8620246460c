import ReplayProxy.Proofs.Engine.Records
import ReplayProxy.Proofs.Engine.Replay
import ReplayProxy.Proofs.Fingerprint.ContentType

/-!
# Records that go out and come back

The list of records that an engine gives is an archive, and an archive can be imported. This file
compares the engine that gave the list with one that began without records and imported it. The
text of the archive, the forms in it and the stored forms lose nothing on the way. The import,
however, fills in content types, and so it may store an exchange under another fingerprint. Such
an exchange has *moved* (`Import.Moves`).

What the other engine holds is said exactly: under each fingerprint the last exchange of the
list whose request has it once its content type is filled in
(`Engine.get?_of_reimported`). From the list of the first engine this differs only where an
exchange has moved away or has moved in.

Main statement:

* `Engine.reimport_replays`: the records can be exported and imported; the other engine answers
  every request with the last exchange of the list that has its fingerprint after the import, and
  if no exchange has moved from or to the fingerprint, then it answers just as the first engine
  does.
-/

namespace ReplayProxy

/-! ### What an import stores -/

namespace Import

/-- The exchange with a content type in its request. -/
def filled (x : Exchange) : Exchange := { x with request := fillContentType x.request }

/-- The import of a request moves it to another fingerprint. -/
def Moves (r : Request) : Prop := (fillContentType r).key ≠ r.key

/-- Only what is unsettled moves. -/
theorem Moves.not_settled {r : Request} (h : Moves r) (hr : r.headers.Canonical) : ¬Settled r :=
  fun hsettled => h (key_fillContentType hr hsettled)

theorem entry_ofExchange {x : Exchange} (h : x.Canonical) :
    entry (.ofExchange x) = .ok ((filled x).request.fingerprint, filled x) := by
  rw [entry, ExchangeForm.exchange_ofExchange, Exchange.canonical_eq_self h]
  rfl

theorem entries_ofExchange {xs : List Exchange} (h : ∀ x ∈ xs, x.Canonical) :
    entries (xs.map .ofExchange) =
      (xs.map fun x => ((filled x).request.fingerprint, filled x), 0) := by
  induction xs with
  | nil => rfl
  | cons x xs ih =>
    rw [List.map_cons, entries, entry_ofExchange (h x List.mem_cons_self),
      ih fun y hy => h y (List.mem_cons_of_mem _ hy)]
    rfl

theorem canonical_filled {x : Exchange} (h : x.Canonical) : (filled x).Canonical :=
  (Engine.entry_spec (entry_ofExchange h)).2

end Import

/-- After a list of exchanges has been stored, the last one with a key is held under it. -/
theorem Change.get?_foldl_stored {c : Cache} (hsound : c.Sound) (xs : List Exchange) (key : Bytes) :
    ((xs.map stored).foldl apply c).backing.get? key =
      ((xs.findRev? fun x => x.request.key == key).map Exchange.encode).or
        (c.backing.get? key) := by
  -- the first exchange is stored first, so the cache varies along the induction
  induction xs generalizing c with
  | nil => rfl
  | cons x xs ih =>
    rw [List.map_cons, List.foldl_cons, ih (sound_apply hsound _), apply_of_sound hsound, onBacking,
      Backing.get?_set, List.findRev?]
    cases hlast : xs.findRev? fun x => x.request.key == key with
    | some y => rfl
    | none => by_cases hkey : x.request.key = key <;> simp [hkey]

namespace Cache

/-- The exchanges of a keyed cache are what it holds under their fingerprints. -/
theorem Keyed.mem_exchanges_iff {c : Cache} (h : c.Keyed) {x : Exchange} :
    x ∈ c.exchanges ↔ x.Canonical ∧ c.backing.get? x.request.key = some x.encode := by
  constructor
  · intro hx
    refine ⟨canonical_of_mem_exchanges hx, Backing.mem_entries_iff.1 ?_⟩
    rw [h.entries_eq]
    exact List.mem_map_of_mem hx
  · rintro ⟨hcanonical, hget⟩
    refine List.mem_filterMap.2 ⟨_, Backing.mem_entries_iff.2 hget, ?_⟩
    simp only [Exchange.decode_encode hcanonical]
    rfl

end Cache

namespace Engine

/-! ### Exporting and importing -/

/-- What a simulation answers when it has found an exchange, or none. -/
def answerWith (r : Request) : Option Exchange → Response
  | some x => x.response
  | none =>
    errorResponse 412 "Could not find recorded request, please record it first!"
      (ProxyError.storage (.notFound r.key)).message

/-- Without a transform, a simulation answers what is replayed. -/
theorem process_inMode_simulate {e : Engine} (hplain : e.transform = none) (s : Surroundings σ)
    (r : Request) (w : σ) : ((e.inMode .simulate).process s r w).1.1 = e.replayed r := by
  have hprocess : ((e.inMode .simulate).process s r w).1.1 =
      ((e.inMode .simulate).simulate s.outside r w).1 := rfl
  have hlookup : (e.inMode .simulate).lookup r.key = e.lookup r.key := rfl
  have htransform : (e.inMode .simulate).transform = none := hplain
  -- the mode decides neither what is looked up nor whether there is a transform
  rw [hprocess, simulate, replayed, hlookup]
  cases e.lookup r.key with
  | ok found =>
    simp only [htransform]
    rfl
  | error err =>
    by_cases hmissing : err.isNotFound = true
    · simp only [if_pos hmissing]
      rfl
    · simp only [if_neg hmissing]
      rfl

/-- What is replayed depends on what is held under the fingerprint. -/
theorem replayed_of_get? {e : Engine} (hsound : e.requests.Sound) {r : Request}
    {found : Option Exchange} (hcanonical : ∀ x ∈ found, x.Canonical)
    (hget : e.requests.backing.get? r.key = found.map Exchange.encode) :
    e.replayed r = answerWith r found := by
  rw [replayed, lookup_of_sound hsound, hget]
  cases found with
  | none => rfl
  | some x =>
    rw [Option.map_some]
    simp only [Exchange.decode_encode (hcanonical x rfl)]
    rfl

/-- A list of exchanges that is not empty is imported as a whole. -/
theorem importArchive_ofExchange (fresh : Engine) {xs : List Exchange} (hne : xs ≠ [])
    (hcanonical : ∀ x ∈ xs, x.Canonical) :
    ∃ n e', fresh.importArchive ⟨xs.map .ofExchange⟩ = .ok (n, e') ∧
      e'.transform = fresh.transform ∧
        e'.requests = ((xs.map Import.filled).map .stored).foldl Change.apply fresh.requests := by
  have hdata : (xs.map ExchangeForm.ofExchange).isEmpty = false := by
    rw [List.isEmpty_eq_false_iff]
    simpa using hne
  -- exchanges that were written are all read again, so no entry fails
  have hprepare : Import.prepare ⟨xs.map .ofExchange⟩ =
      .ok (xs.map fun x => ((Import.filled x).request.fingerprint, Import.filled x), 0) := by
    rw [Import.prepare, hdata, Import.entries_ofExchange hcanonical]
    rfl
  obtain ⟨n, e', himport⟩ : ∃ n e', fresh.importArchive ⟨xs.map .ofExchange⟩ = .ok (n, e') := by
    rw [importArchive, hprepare]
    exact ⟨_, _, rfl⟩
  have hchanges : imported ⟨xs.map .ofExchange⟩ = (xs.map Import.filled).map .stored := by
    simp only [imported, hprepare, List.map_map]
    rfl
  obtain rfl := importArchive_eq_ok himport
  refine ⟨n, _, himport, rfl, ?_⟩
  rw [hchanges]

/-- The exchange that is found under a fingerprint after a list of exchanges was imported: the
last one with this fingerprint once its content type is filled in. -/
def found (xs : List Exchange) (r : Request) : Option Exchange :=
  xs.findRev? fun x => (Import.fillContentType x.request).key == r.key

theorem found_eq_some {xs : List Exchange} {r : Request} {x : Exchange} (h : found xs r = some x) :
    x ∈ xs ∧ (Import.fillContentType x.request).key = r.key := by
  rw [found, List.findRev?_eq_find?_reverse] at h
  exact ⟨List.mem_reverse.1 (List.mem_of_find?_eq_some h), by simpa using List.find?_some h⟩

theorem found_eq_none {xs : List Exchange} {r : Request} (h : found xs r = none) {x : Exchange}
    (hx : x ∈ xs) : (Import.fillContentType x.request).key ≠ r.key := by
  rw [found, List.findRev?_eq_find?_reverse] at h
  simpa using List.find?_eq_none.1 h x (List.mem_reverse.2 hx)

theorem get?_of_entries_eq_nil {b : Backing} (h : b.entries = []) (key : Bytes) :
    b.get? key = none := by
  refine Option.eq_none_iff_forall_ne_some.2 fun value hget => ?_
  have hmem := Backing.mem_entries_iff.2 hget
  rw [h] at hmem
  cases hmem

/-- The records after an import into none. -/
theorem get?_of_reimported {c : Cache} (hsound : c.Sound) (hempty : c.backing.entries = [])
    (xs : List Exchange) (r : Request) :
    (((xs.map Import.filled).map .stored).foldl Change.apply c).backing.get? r.key =
      ((found xs r).map Import.filled).map Exchange.encode := by
  have hfind : ((xs.map Import.filled).findRev? fun x => x.request.key == r.key) =
      (found xs r).map Import.filled := by
    rw [found, List.findRev?_eq_find?_reverse, List.findRev?_eq_find?_reverse, ← List.map_reverse,
      List.find?_map]
    rfl
  rw [Change.get?_foldl_stored hsound, hfind, get?_of_entries_eq_nil hempty, Option.or_none]

/-- An engine gives its exchanges as an archive, which can be imported through its text by an
engine without records. That engine replays what is found. -/
theorem exists_reimported {e : Engine} (hkeyed : e.requests.Keyed) (hsound : e.requests.Sound)
    (hsome : e.requests.backing.entries ≠ []) (fresh : Engine) (hfresh : fresh.requests.Sound)
    (hempty : fresh.requests.backing.entries = []) :
    ∃ a n e', e.records = .ok a ∧ Archive.parse (Bytes.ofText a.text) = .ok a ∧
      fresh.importArchive a = .ok (n, e') ∧ e'.transform = fresh.transform ∧
        ∀ r, e'.replayed r = answerWith r (found e.requests.exchanges r) := by
  obtain ⟨a, -, hrecords, -⟩ := (register_of_keyed hkeyed).answered hsound
  have hdata : a = ⟨e.requests.exchanges.map .ofExchange⟩ := by
    rw [← records_eq_ok hrecords]
  have hcanonical : ∀ x ∈ e.requests.exchanges, x.Canonical :=
    fun x hx => Cache.canonical_of_mem_exchanges hx
  have hne : e.requests.exchanges ≠ [] := by
    intro hnil
    rw [hkeyed.entries_eq, hnil] at hsome
    exact hsome rfl
  obtain ⟨n, e', himport, htransform, hrequests⟩ := importArchive_ofExchange fresh hne hcanonical
  refine ⟨a, n, e', hrecords, Archive.parse_text a, by rw [hdata, himport], htransform,
    fun r => ?_⟩
  have hsound' : e'.requests.Sound := by
    rw [hrequests]
    exact Change.sound_foldl hfresh _
  -- what the new engine holds is what was imported last under the key
  have hget := get?_of_reimported hfresh hempty e.requests.exchanges r
  rw [← hrequests] at hget
  rw [replayed_of_get? hsound' ?_ hget]
  · -- a content type does not show in the response
    cases found e.requests.exchanges r <;> rfl
  · intro y hy
    obtain ⟨x, hx, rfl⟩ := Option.mem_map.1 hy
    exact Import.canonical_filled (hcanonical x (found_eq_some hx).1)

/-- Where no exchange has moved from or to the fingerprint of a request, what is found is what was
there before the import. -/
theorem replayed_eq_answerWith {e : Engine} (hkeyed : e.requests.Keyed) (hsound : e.requests.Sound)
    {r : Request} (hstays : ∀ x ∈ e.requests.exchanges, Import.Moves x.request →
      x.request.key ≠ r.key ∧ (Import.fillContentType x.request).key ≠ r.key) :
    e.replayed r = answerWith r (found e.requests.exchanges r) := by
  refine replayed_of_get? hsound (fun x hx => ?_) ?_
  · exact Cache.canonical_of_mem_exchanges (found_eq_some hx).1
  cases hfound : found e.requests.exchanges r with
  | some x =>
    obtain ⟨hx, hkey⟩ := found_eq_some hfound
    have hsame : (Import.fillContentType x.request).key = x.request.key :=
      Classical.byContradiction fun hmoves => (hstays x hx hmoves).2 hkey
    rw [← hkey, hsame]
    exact (hkeyed.mem_exchanges_iff.1 hx).2
  | none =>
    refine Option.eq_none_iff_forall_ne_some.2 fun value hget => ?_
    -- what is held is an exchange of the list, and it has not moved away
    obtain ⟨x, hcanonical, hkey, rfl⟩ := hkeyed r.key value hget
    rw [hkey] at hget
    have hx := hkeyed.mem_exchanges_iff.2 ⟨hcanonical, hget⟩
    have hsame : (Import.fillContentType x.request).key = x.request.key :=
      Classical.byContradiction fun hmoves => (hstays x hx hmoves).1 hkey.symm
    exact found_eq_none hfound hx (hsame.trans hkey.symm)

/-- **Export, then import.** Take an engine without a transform that was reached from one without
records and has some, and a second engine without a transform and without records. The second
one can import the records of the first one through their text. In a simulation it then answers

* every request with the last of the exchanges whose request has its fingerprint once the content
  type is filled in, or says that there is none;
* a request just as the first engine does, unless an exchange has moved from or to its
  fingerprint; and only exchanges with unsettled requests move. -/
theorem reimport_replays {s : Surroundings σ} {e : Engine} {w : σ} (h : Reachable s e w)
    (hplain : e.transform = none) (hsound : e.requests.Sound)
    (hsome : e.requests.backing.entries ≠ []) (fresh : Engine) (hfresh : fresh.transform = none)
    (hfreshSound : fresh.requests.Sound) (hempty : fresh.requests.backing.entries = []) :
    ∃ a n e', e.records = .ok a ∧ Archive.parse (Bytes.ofText a.text) = .ok a ∧
      fresh.importArchive a = .ok (n, e') ∧
        (∀ r {τ : Type} (s' : Surroundings τ) (w' : τ),
          ((e'.inMode .simulate).process s' r w').1.1 =
            answerWith r (found e.requests.exchanges r)) ∧
        (∀ r, (∀ x ∈ e.requests.exchanges, Import.Moves x.request →
            x.request.key ≠ r.key ∧ (Import.fillContentType x.request).key ≠ r.key) →
          ∀ {τ : Type} (s' : Surroundings τ) (w' : τ),
            ((e'.inMode .simulate).process s' r w').1.1 =
              ((e.inMode .simulate).process s' r w').1.1) ∧
        ∀ x ∈ e.requests.exchanges, Import.Moves x.request → ¬Import.Settled x.request := by
  have hkeyed := h.keyed
  obtain ⟨a, n, e', hrecords, hparse, himport, htransform, hreplayed⟩ :=
    exists_reimported hkeyed hsound hsome fresh hfreshSound hempty
  have hplain' : e'.transform = none := htransform.trans hfresh
  refine ⟨a, n, e', hrecords, hparse, himport, fun r _ s' w' => ?_, fun r hstays _ s' w' => ?_,
    fun x hx hmoves => ?_⟩
  · rw [process_inMode_simulate hplain', hreplayed]
  · -- the request finds what it found before, since no exchange came to its key or left it
    rw [process_inMode_simulate hplain', process_inMode_simulate hplain, hreplayed,
      replayed_eq_answerWith hkeyed hsound hstays]
  · exact hmoves.not_settled (Cache.canonical_of_mem_exchanges hx).request

/-! ### Two captures, one of which moves -/

section Captured

variable {s : Surroundings σ} {e : Engine} {r : Request} {response : Response} {w : σ}

/-- A capture stores one exchange. -/
theorem requests_of_captured (hmode : e.mode = .capture) (hplain : e.transform = none)
    (hforward : (Forward.forward e.forwarding s r w).1 = .ok response) :
    (e.act s (.process r) w).1.requests =
      ([recording r response].map Change.stored).foldl Change.apply e.requests := by
  have hchanges : e.changes s w (.process r) = [.stored (recording r response)] := by
    simp only [changes, recorded, hmode, (captured_of_forward hplain hforward).1, recordings]
  rw [(act_follows s e (.process r) w).requests, hchanges]
  rfl

/-- If there were no records before, it is the only one. -/
theorem mem_exchanges_of_captured (hmode : e.mode = .capture) (hplain : e.transform = none)
    (hsound : e.requests.Sound) (hempty : e.requests.backing.entries = [])
    (hr : r.headers.Canonical)
    (hforward : (Forward.forward e.forwarding s r w).1 = .ok response) {x : Exchange} :
    x ∈ (e.act s (.process r) w).1.requests.exchanges ↔ x = recording r response := by
  have hreachable : Reachable s (e.act s (.process r) w).1 (e.act s (.process r) w).2 :=
    .act (.process r) hr (.start hempty)
  have hrecording : (recording r response).Canonical := ⟨hr, Forward.canonical_of_forward hforward⟩
  rw [hreachable.keyed.mem_exchanges_iff, requests_of_captured hmode hplain hforward,
    Change.get?_foldl_stored hsound, get?_of_entries_eq_nil hempty, Option.or_none]
  constructor
  · rintro ⟨hcanonical, hget⟩
    -- the two have one stored form, from which both are read back
    obtain ⟨y, hy, hencode⟩ := Option.map_eq_some_iff.1 hget
    rw [List.findRev?_eq_find?_reverse] at hy
    obtain rfl : y = recording r response := by simpa using List.mem_of_find?_eq_some hy
    have hdecode := Exchange.decode_encode hrecording
    rw [hencode, Exchange.decode_encode hcanonical] at hdecode
    exact Except.ok.inj hdecode
  · rintro rfl
    exact ⟨hrecording, by simp [List.findRev?]⟩

end Captured

/-- What is captured by an engine without records in a world that answers. -/
theorem captured_answering {r : Request} (hr : r.headers.Canonical)
    (h : (Forward.forward {} answering r ()).1.toOption.map Response.status = some 200) :
    let e := (recorder.act answering (.process r) ()).1
    Reachable answering e () ∧ e.transform = none ∧ e.requests.Sound ∧
      e.requests.backing.entries ≠ [] ∧
        ∃ response : Response, response.status = 200 ∧
          ∀ x, x ∈ e.requests.exchanges ↔ x = recording r response := by
  intro e
  obtain ⟨response, hforward, hstatus⟩ : ∃ response,
      (Forward.forward recorder.forwarding answering r ()).1 = .ok response ∧
        response.status = 200 := by
    show ∃ response, (Forward.forward {} answering r ()).1 = .ok response ∧ response.status = 200
    cases hforward : (Forward.forward {} answering r ()).1 with
    | error err => simp [hforward, Except.toOption] at h
    | ok response => exact ⟨response, rfl, by simpa [hforward, Except.toOption] using h⟩
  have hexchanges : ∀ x, x ∈ e.requests.exchanges ↔ x = recording r response :=
    fun x => mem_exchanges_of_captured rfl rfl (fun _ => rfl) rfl hr hforward
  -- the engine is reachable by the capture, which stored exactly this exchange
  refine ⟨.act (.process r) hr (.start rfl), (act_follows _ _ _ _).transform, ?_, fun hnil => ?_,
    response, hstatus, hexchanges⟩
  · rw [requests_of_captured rfl rfl hforward]
    exact Change.sound_foldl (fun _ => rfl) _
  · have hmem := (hexchanges _).2 rfl
    simp [Cache.exchanges, hnil] at hmem

/-- An order that was captured is replayed after an export and an import, and so is every other
request, since an order comes with its content type and does not move. -/
theorem reimport_replays_order :
    let e := (recorder.act answering (.process order) ()).1
    ∃ a n e', e.records = .ok a ∧ Archive.parse (Bytes.ofText a.text) = .ok a ∧
      recorder.importArchive a = .ok (n, e') ∧
        ((e'.inMode .simulate).process answering order ()).1.1.status = 200 ∧
        ∀ r, ((e'.inMode .simulate).process answering r ()).1.1 =
          ((e.inMode .simulate).process answering r ()).1.1 := by
  intro e
  have horder : order.headers.Canonical := Headers.canonical_ofPairs _
  obtain ⟨hreachable, hplain, hsound, hsome, response, hstatus, hexchanges⟩ :=
    captured_answering horder (by decide +kernel)
  -- the order has a content type, so filling one in does not move it
  have hstays : ∀ x ∈ e.requests.exchanges, ¬Import.Moves x.request := by
    intro x hx hmoves
    rw [(hexchanges x).1 hx] at hmoves
    have hfirst : order.headers.first? "Content-Type" = some "application/json" := by
      rw [Headers.first?, horder.values]
      decide +kernel
    exact hmoves (congrArg Request.key (Import.fillContentType_of_some hfirst))
  obtain ⟨a, n, e', hrecords, hparse, himport, hfound, hsame, -⟩ :=
    reimport_replays hreachable hplain hsound hsome recorder rfl (fun _ => rfl) rfl
  refine ⟨a, n, e', hrecords, hparse, himport, ?_, fun r => ?_⟩
  · rw [hfound]
    -- the capture is held, and it is found because its key has not moved
    cases hlast : found e.requests.exchanges order with
    | some x =>
      rw [(hexchanges x).1 (found_eq_some hlast).1]
      exact hstatus
    | none =>
      have hmem := (hexchanges _).2 rfl
      exact absurd (Classical.byContradiction (hstays _ hmem)) (found_eq_none hlast hmem)
  · exact hsame r (fun x hx hmoves => absurd hmoves (hstays x hx)) answering ()

/-- A request whose body is an empty JSON object with a blank in it, without a content type. -/
def spaced : Request where
  method := "POST"
  destination := "a"
  path := "/"
  body := [0x7B, 0x20, 0x7D]

/-- With its content type the body of the request loses its blank. -/
theorem bodyPart_spaced :
    Fingerprint.bodyPart spaced = [0x7B, 0x20, 0x7D] ∧
      Fingerprint.bodyPart (Import.fillContentType spaced) = [0x7B, 0x7D] := by
  have hfirst : spaced.headers.first? "Content-Type" = none := rfl
  have hsniff : Import.sniffContentType spaced.body = "application/json" := by decide +kernel
  obtain ⟨ms, hparse⟩ := Import.exists_object_of_sniff hsniff
  have hbytes : (Json.Value.parse spaced.body).toOption.map Json.Value.bytes =
      some [0x7B, 0x7D] := by decide +kernel
  constructor
  · exact Import.bodyPart_of_none hfirst
  · rw [Import.bodyPart_fillContentType_object Headers.canonical_empty hfirst hparse]
    simpa [hparse, Except.toOption] using hbytes

/-- The parts of a request that goes where this one goes: four in front, and then the body. -/
theorem parts_of_spaced {r : Request} (h : Fingerprint.SameTarget r spaced) :
    Fingerprint.parts r =
      [Bytes.ofText "a", Bytes.ofText "/", Bytes.ofText "POST", Bytes.ofText "",
        Fingerprint.bodyPart r] := by
  have hlower : Ascii.lower "a" = "a" := by
    rw [← String.toList_inj, Ascii.toList_lower]
    rfl
  rw [Fingerprint.parts, h.destination, h.path, h.method, h.query]
  simp only [spaced, hlower, Fingerprint.normalQuery_empty]
  rfl

theorem moves_spaced : Import.Moves spaced := by
  obtain ⟨hbody, hfilled⟩ := bodyPart_spaced
  intro hkey
  rw [Request.key, Request.key, Request.fingerprint, Request.fingerprint, Fingerprint.preimage,
    Fingerprint.preimage, parts_of_spaced (Import.sameTarget_fillContentType spaced),
    parts_of_spaced ⟨rfl, rfl, rfl, rfl⟩, hbody, hfilled] at hkey
  have hfingerprint := Bytes.ofText_injective hkey
  revert hfingerprint
  decide +kernel

/-- A request that was captured without its content type is replayed, but no longer after an
export and an import. -/
theorem reimport_loses_spaced :
    let e := (recorder.act answering (.process spaced) ()).1
    Reachable answering e () ∧ e.transform = none ∧ e.requests.Sound ∧
      e.requests.backing.entries ≠ [] ∧
      ∃ a n e', e.records = .ok a ∧ Archive.parse (Bytes.ofText a.text) = .ok a ∧
        recorder.importArchive a = .ok (n, e') ∧
          ((e.inMode .simulate).process answering spaced ()).1.1.status = 200 ∧
          ((e'.inMode .simulate).process answering spaced ()).1.1.status = 412 := by
  intro e
  obtain ⟨hreachable, hplain, hsound, hsome, response, hstatus, hexchanges⟩ :=
    captured_answering (r := spaced) Headers.canonical_empty (by decide +kernel)
  obtain ⟨a, n, e', hrecords, hparse, himport, htransform, hreplayed⟩ :=
    exists_reimported hreachable.keyed hsound hsome recorder (fun _ => rfl) rfl
  refine ⟨hreachable, hplain, hsound, hsome, a, n, e', hrecords, hparse, himport, ?_, ?_⟩
  · -- the exchange is held under the fingerprint of the request as it came
    have hmem := (hexchanges _).2 rfl
    have hget : e.requests.backing.get? spaced.key =
        (some (recording spaced response)).map Exchange.encode :=
      (hreachable.keyed.mem_exchanges_iff.1 hmem).2
    have hcanonical : ∀ x ∈ some (recording spaced response), x.Canonical :=
      fun x hx => Option.some.inj hx ▸ Cache.canonical_of_mem_exchanges hmem
    rw [process_inMode_simulate hplain, replayed_of_get? hsound hcanonical hget]
    exact hstatus
  · rw [process_inMode_simulate htransform, hreplayed]
    cases hlast : found e.requests.exchanges spaced with
    | none => rfl
    | some x =>
      -- the only exchange has moved away
      obtain ⟨hx, hkey⟩ := found_eq_some hlast
      rw [(hexchanges x).1 hx] at hkey
      exact absurd hkey moves_spaced

end Engine

end ReplayProxy
