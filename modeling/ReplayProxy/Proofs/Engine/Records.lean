import ReplayProxy.Proofs.Engine.Actions

/-!
# The register of recorded exchanges

Two writers share the requests cache. A capture stores the request as it came, although it may
have forwarded another one, and an import gives the request a content type before it stores
it. This file shows that they keep one invariant between them: every value is the stored form
of a canonical exchange and lies under the fingerprint of that exchange's own request
(`Cache.Keyed`). Neither looks at what the cache holds already, so the invariant is a matter
of single changes (`Cache.Keyed.apply`), and `Engine.act_follows` carries it through any
sequence of actions.

Main statement:

* `Engine.register_of_reachable`: whatever is done to an engine that begins without records,
  its records are a register of exchanges (`Engine.Register`): they are listed completely,
  counted rightly and told apart by their fingerprints.

The storage under the cache may fail at any time. What is refused is not stored, and what is
stored stays in order.
-/

namespace ReplayProxy

/-- A store key lies in ASCII. -/
theorem Request.lt_of_mem_key {r : Request} {b : UInt8} (hb : b ∈ r.key) : b.toNat < 0x80 :=
  Bytes.lt_of_mem_ofText (fun _ hc => Bytes.toNat_lt_of_mem_hex hc) hb

/-! ### Keyed caches -/

namespace Cache

/-- **The invariant.** Every value is the stored form of a canonical exchange and lies under
the fingerprint of its request. -/
def Keyed (c : Cache) : Prop :=
  ∀ key value, c.backing.get? key = some value →
    ∃ x : Exchange, x.Canonical ∧ key = x.request.key ∧ value = x.encode

/-- A change keeps the invariant, provided that what it stores is canonical. -/
theorem Keyed.apply {c : Cache} (h : c.Keyed) {change : Change}
    (hstored : ∀ x, change = .stored x → x.Canonical) : (change.apply c).Keyed := by
  intro key value hget
  rcases change.apply_eq_or c with happly | happly <;> rw [happly] at hget
  · exact h key value hget
  · cases change with
    | stored x =>
      -- a value is the one that was stored, or it was there before
      rw [Change.onBacking, Backing.get?_set] at hget
      split at hget
      · next hkey => exact ⟨x, hstored x rfl, hkey.symm, (Option.some.inj hget).symm⟩
      · exact h key value hget
    | cleared =>
      rw [Change.onBacking, Backing.get?_clear] at hget
      cases hget

theorem Keyed.foldl {c : Cache} (h : c.Keyed) {changes : List Change}
    (hstored : ∀ x, .stored x ∈ changes → x.Canonical) : (changes.foldl Change.apply c).Keyed := by
  induction changes generalizing c with
  | nil => exact h
  | cons change changes ih =>
    refine ih (h.apply fun x hx => hstored x ?_) fun x hx => hstored x ?_
    · rw [hx]
      exact List.mem_cons_self
    · exact List.mem_cons_of_mem _ hx

/-- The exchanges that the values of a cache stand for, in the order of the keys. -/
def exchanges (c : Cache) : List Exchange :=
  c.backing.entries.filterMap fun entry => (Exchange.decode entry.2).toOption

/-- If every entry is the form of something that can be read off it, the list is the list of
the forms of what is read off. -/
theorem map_filterMap_of_inverse {read : α → Option β} {form : β → α} {l : List α}
    (h : ∀ a ∈ l, ∃ b, read a = some b ∧ form b = a) : (l.filterMap read).map form = l := by
  induction l with
  | nil => rfl
  | cons a l ih =>
    obtain ⟨b, hread, hform⟩ := h a List.mem_cons_self
    rw [List.filterMap_cons_some hread, List.map_cons, hform,
      ih fun a ha => h a (List.mem_cons_of_mem _ ha)]

/-- The entries of a keyed cache are its exchanges written out. -/
theorem Keyed.entries_eq {c : Cache} (h : c.Keyed) :
    c.backing.entries = c.exchanges.map fun x => (x.request.key, x.encode) := by
  refine (map_filterMap_of_inverse fun entry hentry => ?_).symm
  obtain ⟨key, value⟩ := entry
  obtain ⟨x, hx, rfl, rfl⟩ := h key value (Backing.mem_entries_iff.1 hentry)
  exact ⟨x, by rw [Exchange.decode_encode hx]; rfl, rfl⟩

/-- The exchanges of a keyed cache stand in strictly increasing order of their fingerprints. -/
theorem Keyed.ordered {c : Cache} (h : c.Keyed) :
    c.exchanges.Pairwise fun x y => compare x.request.key y.request.key = .lt := by
  -- the keys are listed in this order, and they are the fingerprints
  have hentries := c.backing.entries_ordered
  rw [h.entries_eq] at hentries
  exact List.pairwise_map.1 hentries

theorem canonical_of_mem_exchanges {c : Cache} {x : Exchange} (h : x ∈ c.exchanges) :
    x.Canonical := by
  obtain ⟨entry, -, hread⟩ := List.mem_filterMap.1 h
  -- only a value that decodes is listed, and what is decoded is canonical
  cases hdecode : Exchange.decode entry.2 with
  | error err => simp [hdecode, Except.toOption] at hread
  | ok y =>
    obtain rfl : y = x := by simpa [hdecode, Except.toOption] using hread
    exact Exchange.canonical_of_decode hdecode

end Cache

namespace Engine

/-! ### The lists that the engine gives -/

theorem records_eq_ok {e : Engine} {a : Archive} (h : e.records = .ok a) :
    a.data = e.requests.exchanges.map ExchangeForm.ofExchange := by
  obtain ⟨values, hvalues, h⟩ := bind_eq_ok_iff.1 h
  obtain ⟨-, rfl⟩ := Cache.answer_eq_ok_iff.1 (stored_eq_ok_iff.1 hvalues)
  cases h
  rw [Cache.exchanges, List.filterMap_map, List.map_filterMap]
  refine congrArg (List.filterMap · _) (funext fun entry => ?_)
  simp only [Function.comp_apply]
  cases Exchange.decode entry.2 <;> rfl

theorem recordsCount_eq_ok {e : Engine} {n : Nat} (h : e.recordsCount = .ok n) :
    n = e.requests.backing.entries.length := by
  obtain ⟨-, rfl⟩ := Cache.answer_eq_ok_iff.1 (stored_eq_ok_iff.1 h)
  exact Backing.count_eq_length _

/-- The records are a register of exchanges. -/
structure Register (e : Engine) : Prop where
  /-- Every value is the stored form of an exchange, and its key is the fingerprint, in ASCII. -/
  entry : ∀ key value, (key, value) ∈ e.requests.backing.entries →
    (∃ x, Exchange.decode value = .ok x ∧ value = x.encode ∧
      key = Bytes.ofText x.request.fingerprint) ∧ ∀ b ∈ key, b.toNat < 0x80
  /-- No two exchanges have one fingerprint. -/
  distinct : ∀ key value key' value' x x',
    (key, value) ∈ e.requests.backing.entries → (key', value') ∈ e.requests.backing.entries →
      Exchange.decode value = .ok x → Exchange.decode value' = .ok x' →
        x.request.fingerprint = x'.request.fingerprint → (key, value) = (key', value')
  /-- The list of records leaves nothing out. Its elements, read back, stand in strictly
  increasing order of their fingerprints. -/
  listed : ∀ a, e.records = .ok a →
    ∃ xs : List Exchange,
      e.requests.backing.entries = xs.map (fun x => (x.request.key, x.encode)) ∧
        a.data.map ExchangeForm.exchange = xs.map .ok ∧
          xs.Pairwise fun x y => compare x.request.key y.request.key = .lt
  /-- The count is the length of the list. -/
  counted : ∀ a n, e.records = .ok a → e.recordsCount = .ok n → n = a.data.length
  /-- Unless the storage fails, both are answered. -/
  answered : e.requests.Sound → ∃ a n, e.records = .ok a ∧ e.recordsCount = .ok n

theorem register_of_keyed {e : Engine} (h : e.requests.Keyed) : Register e where
  entry key value hmem := by
    obtain ⟨x, hx, rfl, rfl⟩ := h key value (Backing.mem_entries_iff.1 hmem)
    exact ⟨⟨x, Exchange.decode_encode hx, rfl, rfl⟩, fun _ hb => Request.lt_of_mem_key hb⟩
  distinct key value key' value' x x' hmem hmem' hdecode hdecode' hfingerprint := by
    obtain ⟨y, hy, rfl, rfl⟩ := h key value (Backing.mem_entries_iff.1 hmem)
    obtain ⟨y', hy', rfl, rfl⟩ := h key' value' (Backing.mem_entries_iff.1 hmem')
    obtain rfl : y = x := Except.ok.inj ((Exchange.decode_encode hy).symm.trans hdecode)
    obtain rfl : y' = x' := Except.ok.inj ((Exchange.decode_encode hy').symm.trans hdecode')
    -- two entries under one key are one entry, whichever exchanges they stand for
    have hkey : y.request.key = y'.request.key := by rw [Request.key, hfingerprint, Request.key]
    rw [Backing.mem_entries_iff, hkey] at hmem
    rw [Backing.mem_entries_iff, hmem] at hmem'
    rw [hkey, Option.some.inj hmem']
  listed a hrecords := by
    refine ⟨e.requests.exchanges, h.entries_eq, ?_, h.ordered⟩
    rw [records_eq_ok hrecords, List.map_map]
    refine List.map_congr_left fun x hx => ?_
    -- what is listed was decoded, so it is canonical and is read back from its form
    have hcanonical := Exchange.canonical_eq_self (Cache.canonical_of_mem_exchanges hx)
    exact (ExchangeForm.exchange_ofExchange x).trans (congrArg _ hcanonical)
  counted a n hrecords hcount := by
    rw [recordsCount_eq_ok hcount, records_eq_ok hrecords, h.entries_eq, List.length_map,
      List.length_map]
  answered hsound := by
    simp only [records, recordsCount, Cache.values_of_sound hsound, Cache.count_of_sound hsound]
    exact ⟨_, _, rfl, rfl⟩

/-! ### Reachable engines -/

/-- The engines, and the states of the world that they are in, that actions lead to from an
engine without records. The storage under the records may begin to fail, fail in another way
and recover between any two actions, and the world may change. -/
inductive Reachable (s : Surroundings σ) : Engine → σ → Prop
  | start {e : Engine} {w : σ} (hempty : e.requests.backing.entries = []) : Reachable s e w
  | act {e : Engine} {w : σ} (a : Action) (hcanonical : a.Canonical) (h : Reachable s e w) :
    Reachable s (e.act s a w).1 (e.act s a w).2
  | disturb {e : Engine} {w : σ} (faults : Operation → Option StorageError) (w' : σ)
    (h : Reachable s e w) : Reachable s { e with requests := e.requests.withFaults faults } w'

theorem Reachable.keyed {s : Surroundings σ} {e : Engine} {w : σ} (h : Reachable s e w) :
    e.requests.Keyed := by
  induction h with
  | start hempty =>
    intro key value hget
    have hmem := Backing.mem_entries_iff.2 hget
    rw [hempty] at hmem
    cases hmem
  | @act e w a hcanonical _ ih =>
    -- whatever the action stores is canonical, its request because it came so
    rw [(act_follows s e a w).requests]
    refine ih.foldl fun x hx => ?_
    obtain ⟨hresponse, hrequest⟩ := canonical_of_stored hx
    exact ⟨hrequest hcanonical, hresponse⟩
  | disturb faults w' _ ih => exact ih

/-- **The record-store invariant.** Whatever is done to an engine that begins without records,
whatever its transform and the world do and however its storage fails, its records are a
register of exchanges. -/
theorem register_of_reachable {s : Surroundings σ} {e : Engine} {w : σ} (h : Reachable s e w) :
    Register e := register_of_keyed h.keyed

/-- The order without a content type, as an archive may hold it. -/
def orderForm : ExchangeForm where
  request := { method := "POST", destination := "example.com", path := "/orders", body := "[2]" }
  response := { status := 201, body := "made" }

/-- A capture and an import lead to a register, and so they do when the storage fails
afterwards. -/
theorem register_of_reachable_recorder :
    let captured := recorder.act answering (.process order) ()
    let imported := captured.1.act answering (.importArchive ⟨[orderForm]⟩) captured.2
    Reachable answering imported.1 imported.2 ∧ Register imported.1 ∧
      Register { imported.1 with
        requests := imported.1.requests.withFaults fun _ => some (.io "full") } := by
  intro captured imported
  have hcaptured : Reachable answering captured.1 captured.2 :=
    .act (.process order) (Headers.canonical_ofPairs _) (.start (e := recorder) (w := ()) rfl)
  have himported : Reachable answering imported.1 imported.2 :=
    .act (.importArchive ⟨[orderForm]⟩) trivial hcaptured
  have hbroken := Reachable.disturb (fun _ => some (.io "full")) () himported
  exact ⟨himported, register_of_reachable himported, register_of_reachable hbroken⟩

end Engine

end ReplayProxy
