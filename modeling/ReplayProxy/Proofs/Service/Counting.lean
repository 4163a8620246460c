import ReplayProxy.Proofs.Service.Equipment

/-!
# What the counters count

The engine counts a request after it was answered, whatever came of it, and for the mode that was
active before. This file follows the counters through runs. A run has *arrivals*
(`Service.arrivals`): the modes in which its requests arrived, of those that count. Each event adds
one arrival and moves one counter, or does neither (`Service.moves_occur`), so that the counters of
an engine in service are the numbers of arrivals, up to the width of a counter.

What does not count does not change anything else either, as far as it comes through the proxy. The
administration is there to change the mode and the caches; it does so where it is asked to, and
leaves the counters alone.

Main statement:

* `Service.accounts_after`: counters, total and snapshot after any events, and what requests change
  that are not counted (`Service.Accounts`).
-/

namespace ReplayProxy

/-! ### Counters -/

namespace Counters

/-- Every arrival is one in one of the five modes. -/
theorem length_eq_count (l : List Mode) :
    l.length = l.count .virtualize + l.count .capture + l.count .simulate + l.count .modify +
      l.count .synthesize := by
  induction l with
  | nil => rfl
  | cons m l ih => cases m <;> simp [ih] <;> omega

variable {c : Counters} {l : List Mode}

/-- Counters that are the numbers of arrivals have their number as total. -/
theorem total_of_count (h : ∀ m, c.count m = UInt64.ofNat (l.count m)) :
    c.total = UInt64.ofNat l.length := by
  -- sums of counters wrap as the counters do
  rw [length_eq_count l, UInt64.ofNat_add, UInt64.ofNat_add, UInt64.ofNat_add, UInt64.ofNat_add,
    ← h, ← h, ← h, ← h, ← h]
  simp [total, Mode.all]

theorem snapshot_of_count (h : ∀ m, c.count m = UInt64.ofNat (l.count m)) :
    c.snapshot =
      [("capture", UInt64.ofNat (l.count .capture)), ("modify", UInt64.ofNat (l.count .modify)),
        ("simulate", UInt64.ofNat (l.count .simulate)),
        ("synthesize", UInt64.ofNat (l.count .synthesize)),
        ("virtualize", UInt64.ofNat (l.count .virtualize))] := by
  simp only [snapshot, List.map_cons, List.map_nil, Mode.name, h]

end Counters

theorem Engine.counters_of_create {settings : EngineSettings} {requests metadata : Cache}
    {e : Engine} (h : create settings requests metadata = .ok e) : e.counters = .empty := by
  obtain ⟨-, pattern, -, rfl⟩ := create_eq_ok_iff.1 h
  rfl

namespace Service

variable {σ : Type} {s : Surroundings σ} {st : Service σ}

/-! ### Arrivals -/

/-- The modes in which the requests of a run arrived, of those that count, in order. -/
def arrivals (s : Surroundings σ) (st : Service σ) : List (Event σ) → List Mode
  | [] => []
  | event :: events =>
    (if st.counted event then [st.engine.mode] else []) ++ arrivals s (st.occur s event) events

/-- **Counters.** A run adds to each of them the number of arrivals in its mode. -/
theorem count_after (s : Surroundings σ) (st : Service σ) (events : List (Event σ)) (m : Mode) :
    (st.after s events).engine.counters.count m =
      st.engine.counters.count m + UInt64.ofNat ((st.arrivals s events).count m) := by
  induction events generalizing st with
  | nil => exact (UInt64.add_zero _).symm
  | cons event events ih =>
    have hcounters := (moves_occur s st event).counters
    -- the rest of the run starts from the service that the event leaves
    have hrest := ih (st.occur s event)
    rw [hcounters] at hrest
    refine hrest.trans ?_
    rw [arrivals, List.count_append, UInt64.ofNat_add, ← UInt64.add_assoc]
    refine congrArg (· + _) ?_
    -- the counter of the mode of the arrival moves by one
    cases st.counted event with
    | false => exact (UInt64.add_zero _).symm
    | true =>
      simp only [if_true, Counters.count_increment, List.count_singleton]
      by_cases hmode : m = st.engine.mode
      · simp [hmode]
      · simp [hmode, Ne.symm hmode]

/-! ### What does not count -/

/-- A request that the engine does not take up changes nothing. -/
theorem occur_of_not_takesUp {r : ClientRequest} (h : st.engine.takesUp r = false) :
    st.occur s (.requested r) = st := by
  obtain ⟨hengine, hworld⟩ := Engine.handle_of_not_takesUp s st.world h
  show Service.mk _ _ = _
  rw [hengine, hworld]

/-- What a request to the administration may change: no counter, and what it is there for. -/
structure Administers (e : Engine) (r : ClientRequest) (status : UInt16) (e' : Engine) : Prop where
  counters : e'.counters = e.counters
  mode : e'.mode ≠ e.mode → r.method = "POST" ∧ r.uri.path = "/api/state" ∧ status = 200
  requests : e'.requests ≠ e.requests →
    (r.method = "POST" ∨ r.method = "DELETE") ∧ r.uri.path = "/api/records" ∧ status = 200
  metadata : e'.metadata ≠ e.metadata →
    r.uri.path = "/api/metadata" ∧
      (r.method = "PUT" ∧ status = 201 ∨ r.method = "DELETE" ∧ status = 200)

theorem administers_answer (e : Engine) (r : ClientRequest) :
    Administers e r (Admin.answer e r).1.status (Admin.answer e r).2 := by
  have hanswered := Admin.answer_answered e r
  generalize (Admin.answer e r).1 = reply at hanswered ⊢
  generalize (Admin.answer e r).2 = e' at hanswered ⊢
  -- each way to be answered changes one part of the engine at most, and says which
  cases hanswered with
  | looked => exact ⟨rfl, absurd rfl, absurd rfl, absurd rfl⟩
  | failed => exact ⟨rfl, absurd rfl, absurd rfl, absurd rfl⟩
  | imported hmethod hpath hstatus =>
    exact ⟨rfl, absurd rfl, fun _ => ⟨.inl hmethod, hpath, hstatus⟩, absurd rfl⟩
  | recordsDeleted hmethod hpath hstatus =>
    exact ⟨rfl, absurd rfl, fun _ => ⟨.inr hmethod, hpath, hstatus⟩, absurd rfl⟩
  | stateChanged hmethod hpath hstatus _ _ hchanged =>
    rw [hchanged.frame]
    exact ⟨rfl, fun _ => ⟨hmethod, hpath, hstatus⟩, absurd rfl, absurd rfl⟩
  | metadataStored hmethod hpath hstatus =>
    exact ⟨rfl, absurd rfl, absurd rfl, fun _ => ⟨hpath, .inl ⟨hmethod, hstatus⟩⟩⟩
  | metadataDeleted hmethod hpath hstatus =>
    exact ⟨rfl, absurd rfl, absurd rfl, fun _ => ⟨hpath, .inr ⟨hmethod, hstatus⟩⟩⟩

/-- The administration changes the mode of an engine, and the records of another. -/
theorem administers_steering :
    (Admin.answer Engine.recorder (Admin.asking "POST" "/api/state" "[\"simulate\"]")).2.mode ≠
        Engine.recorder.mode ∧
      (Admin.answer Engine.garbled (Admin.asking "DELETE" "/api/records" "")).2.requests ≠
        Engine.garbled.requests := by
  constructor
  · have hread : Json.decode StateChange.ofTree (Bytes.ofText "[\"simulate\"]") =
        .ok { mode := some "simulate" } := eq_ok_of_toOption (by decide +kernel)
    have hparse : Mode.parse "simulate" = .ok .simulate := eq_ok_of_toOption (by decide +kernel)
    rw [Admin.answer_of_mode rfl rfl (Admin.announcesJson_asking _ _ _) rfl (by decide) hread
      hparse]
    decide
  · have hsound : Engine.garbled.requests.Sound := fun _ => rfl
    rw [Admin.answer_delete_records hsound rfl rfl]
    intro hsame
    -- the one record that was there is gone
    have hget := congrArg (fun c : Cache => c.backing.get? Engine.order.key) hsame
    have hheld : Engine.garbled.requests.backing.get? Engine.order.key = some [0xFF] :=
      Std.ExtTreeMap.getElem?_insert_self
    simp only [Backing.get?_clear, hheld] at hget
    cases hget

/-! ### Accounts -/

/-- The counters are those of the arrivals `l`, and what does not count does not change them. -/
structure Accounts (s : Surroundings σ) (l : List Mode) (st : Service σ) : Prop where
  /-- Each counter is the number of arrivals in its mode, -/
  count : ∀ m, st.engine.counters.count m = UInt64.ofNat (l.count m)
  /-- the total is the number of all arrivals, -/
  total : st.engine.counters.total = UInt64.ofNat l.length
  /-- and the snapshot has all five modes. -/
  snapshot : st.engine.counters.snapshot =
    [("capture", UInt64.ofNat (l.count .capture)), ("modify", UInt64.ofNat (l.count .modify)),
      ("simulate", UInt64.ofNat (l.count .simulate)),
      ("synthesize", UInt64.ofNat (l.count .synthesize)),
      ("virtualize", UInt64.ofNat (l.count .virtualize))]
  /-- A request for a tunnel, to the proxy itself, or to a host that the engine is not concerned
  with changes nothing. -/
  passed : ∀ r, r.method = "CONNECT" ∨ r.uri.host? = none ∨
    (∃ host, r.uri.host? = some host ∧ st.engine.concerns host = false) →
      st.occur s (.requested r) = st
  administered : ∀ r, Administers st.engine r (Admin.answer st.engine r).1.status
    (st.occur s (.administered r)).engine

/-- **What the counters count.** After any events since an engine was made, its counters are the
numbers of the requests that arrived, each in the mode that was active then. -/
theorem accounts_after {settings : EngineSettings} {requests metadata : Cache} {e : Engine}
    (hcreate : Engine.create settings requests metadata = .ok e) (s : Surroundings σ) (w : σ)
    (events : List (Event σ)) :
    Accounts s (arrivals s ⟨e, w⟩ events) (after s ⟨e, w⟩ events) := by
  have hcount : ∀ m, (after s ⟨e, w⟩ events).engine.counters.count m =
      UInt64.ofNat ((arrivals s ⟨e, w⟩ events).count m) := fun m => by
    rw [count_after, Engine.counters_of_create hcreate]
    exact UInt64.zero_add _
  refine ⟨hcount, Counters.total_of_count hcount, Counters.snapshot_of_count hcount,
    fun r hpassed => occur_of_not_takesUp ?_, fun r => administers_answer _ r⟩
  -- none of the three kinds of requests is taken up
  rcases hpassed with hconnect | hself | ⟨host, hhost, hconcerns⟩
  · simp [Engine.takesUp, hconnect]
  · simp [Engine.takesUp, Engine.intercepts, hself]
  · simp [Engine.takesUp, Engine.intercepts, hhost, hconcerns]

/-- A client's order to a shop. -/
def purchase : ClientRequest where
  method := "POST"
  uri :=
    { scheme := some "http", authority := some "shop", writtenPath := "/orders", query := none }
  headers := []
  body := .ok [91, 93]

/-- A new engine answers one order and then simulates. A request to the proxy itself is not
counted. -/
theorem accounts_after_purchase :
    ∃ e, Engine.create {} .inMemory .inMemory = .ok e ∧
      Accounts Engine.answering [.virtualize] (after Engine.answering ⟨e, ()⟩
        [.requested purchase, .acted (.setMode .simulate),
          .requested (Admin.asking "GET" "/" "")]) := by
  obtain ⟨e, he, hmode, htakes⟩ : ∃ e, Engine.create {} .inMemory .inMemory = .ok e ∧
      e.mode = .virtualize ∧ e.takesUp purchase = true := ⟨_, rfl, rfl, by decide +kernel⟩
  have hself : ∀ e : Engine, e.takesUp (Admin.asking "GET" "/" "") = false := fun e => by
    simp [Engine.takesUp, Engine.intercepts, Admin.asking, Http.Uri.host?]
  have harrivals : arrivals Engine.answering ⟨e, ()⟩ [.requested purchase,
      .acted (.setMode .simulate), .requested (Admin.asking "GET" "/" "")] = [.virtualize] := by
    simp only [arrivals, counted, htakes, hmode, hself, Engine.Action.isProcess]
    rfl
  exact ⟨e, he, harrivals ▸ accounts_after he _ _ _⟩

end Service

end ReplayProxy
