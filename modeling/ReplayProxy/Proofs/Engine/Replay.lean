import ReplayProxy.Proofs.Engine.Actions
import ReplayProxy.Proofs.Storage.Reopening

/-!
# Capture, then replay

What was captured is answered again, whatever happens in between. A *session* is an engine
without a transform together with the files and the world around it. It takes steps: actions
of the engine, the passing of time, and, when the records are kept in a database, the closing
of the engine and the opening of another one over the same file. A run of steps comes with the
changes that it made to the records.

The proof has three layers, each with its own induction.

* A session stays *intact* (`Session.Intact`): its caches answer, and those of a database can
  be closed and opened.
* In an intact session the records are determined by the changes: they are the records at the
  beginning with the changes applied (`Session.Run.requests`). Opening a database again gives
  back the same caches, so it makes no change.
* A list of changes says what is held under a key by its last entry that does not spare the
  key (`Change.latest_or_forgotten_or_spares`).

Main statement:

* `Session.simulate_replays`: a response that was captured is replayed until its key is no
  longer spared; and a response is replayed only if it is that of the exchange stored last
  under the key.
-/

namespace ReplayProxy

/-! ### The last change under a key -/

namespace Change

/-- The exchange is stored under the key, and what comes after it spares the key. -/
def Latest (key : Bytes) (changes : List Change) (x : Exchange) : Prop :=
  ∃ before after, changes = before ++ stored x :: after ∧ x.request.key = key ∧
    ∀ change ∈ after, change.Spares key

/-- Everything is cleared, and what comes after it spares the key. -/
def Forgotten (key : Bytes) (changes : List Change) : Prop :=
  ∃ before after, changes = before ++ cleared :: after ∧ ∀ change ∈ after, change.Spares key

/-- Changes store something last under a key, or clear it last, or spare it. -/
theorem latest_or_forgotten_or_spares (key : Bytes) (changes : List Change) :
    (∃ x, Latest key changes x) ∨ Forgotten key changes ∨
      ∀ change ∈ changes, change.Spares key := by
  induction changes with
  | nil => exact .inr (.inr fun _ h => absurd h List.not_mem_nil)
  | cons change changes ih =>
    rcases ih with ⟨x, before, after, rfl, hkey, hafter⟩ | ⟨before, after, rfl, hafter⟩ | hspares
    · exact .inl ⟨x, change :: before, after, rfl, hkey, hafter⟩
    · exact .inr (.inl ⟨change :: before, after, rfl, hafter⟩)
    · -- nothing after the first change touches the key, so the first one decides
      cases change with
      | cleared => exact .inr (.inl ⟨[], changes, rfl, hspares⟩)
      | stored x =>
        by_cases hkey : x.request.key = key
        · exact .inl ⟨x, [], changes, rfl, hkey, hspares⟩
        · exact .inr (.inr (List.forall_mem_cons.2 ⟨hkey, hspares⟩))

theorem get?_of_latest {c : Cache} (hsound : c.Sound) {key : Bytes} {changes : List Change}
    {x : Exchange} (h : Latest key changes x) :
    (changes.foldl apply c).backing.get? key = some x.encode := by
  obtain ⟨before, after, rfl, hkey, hafter⟩ := h
  rw [List.foldl_append, List.foldl_cons, get?_foldl_of_spares hafter,
    apply_of_sound (sound_foldl hsound before)]
  simp [onBacking, Backing.get?_set, hkey]

theorem get?_of_forgotten {c : Cache} (hsound : c.Sound) {key : Bytes} {changes : List Change}
    (h : Forgotten key changes) : (changes.foldl apply c).backing.get? key = none := by
  obtain ⟨before, after, rfl, hafter⟩ := h
  rw [List.foldl_append, List.foldl_cons, get?_foldl_of_spares hafter,
    apply_of_sound (sound_foldl hsound before)]
  exact Backing.get?_clear _ key

end Change

/-! ### Answering from the records -/

namespace Engine

/-- An engine is made of its settings and caches, once the mode and the pattern were found good. -/
theorem create_eq_ok_iff {settings : EngineSettings} {requests metadata : Cache} {e : Engine} :
    create settings requests metadata = .ok e ↔
      checkMode settings.transform settings.mode = .ok () ∧
        ∃ pattern, readPattern settings.destination = .ok pattern ∧
          e = { mode := settings.mode, destination := settings.destination, pattern
                transform := settings.transform, forwarding := settings.forwarding
                requests, metadata, counters := .empty } := by
  constructor
  · intro h
    obtain ⟨_, hcheck, h⟩ := bind_eq_ok_iff.1 h
    obtain ⟨pattern, hpattern, h⟩ := bind_eq_ok_iff.1 h
    cases h
    exact ⟨hcheck, pattern, hpattern, rfl⟩
  · rintro ⟨hcheck, pattern, hpattern, rfl⟩
    rw [create, hcheck, hpattern]
    rfl

theorem create_eq_ok {settings : EngineSettings} {requests metadata : Cache} {e : Engine}
    (h : create settings requests metadata = .ok e) :
    e.requests = requests ∧ e.metadata = metadata ∧ e.transform = settings.transform := by
  obtain ⟨-, pattern, -, rfl⟩ := create_eq_ok_iff.1 h
  exact ⟨rfl, rfl, rfl⟩

theorem process_simulate {e : Engine} (hmode : e.mode = .simulate) (s : Surroundings σ)
    (r : Request) (w : σ) :
    (e.process s r w).1.1 = (e.simulate s.outside r w).1 ∧
      (e.process s r w).2 = (e.simulate s.outside r w).2 := by
  simp only [process, answer, hmode]
  exact ⟨rfl, rfl⟩

/-- Without a transform, a simulation answers what it finds and leaves the world alone. -/
theorem simulate_of_lookup {e : Engine} (hplain : e.transform = none) {r : Request} {x : Exchange}
    (h : e.lookup r.key = .ok x) (o : Outside σ) (w : σ) :
    e.simulate o r w = (x.response, w) := by
  simp only [simulate, h, hplain]
  rfl

/-- The failures of a simulation have two statuses. -/
theorem simulate_of_lookup_error {e : Engine} {r : Request} {err : ProxyError}
    (h : e.lookup r.key = .error err) (o : Outside σ) (w : σ) :
    (e.simulate o r w).1.status = if err.isNotFound then 412 else 500 := by
  simp only [simulate, h]
  cases err.isNotFound <;> rfl

/-- Without a transform, a capture records what the destination answers to the request. -/
theorem captured_of_forward {e : Engine} (hplain : e.transform = none) {s : Surroundings σ}
    {r : Request} {w : σ} {response : Response}
    (h : (Forward.forward e.forwarding s r w).1 = .ok response) :
    (e.captured s.outside r w).1 = some response ∧
      (e.capture s.outside r w).1.1 = response := by
  simp only [captured, capture, prepared, hplain, Surroundings.outside, bind_apply, pure_apply, h]
  exact ⟨trivial, trivial⟩

end Engine

/-! ### Sessions -/

/-- An engine with the files and the world around it. -/
structure Session (σ : Type) where
  engine : Engine
  files : FileTree
  world : σ

namespace Session

/-- The session after an action. -/
def after (s : Surroundings σ) (st : Session σ) (a : Engine.Action) : Session σ :=
  { st with
    engine := (st.engine.act s a st.world).1
    world := (st.engine.act s a st.world).2 }

/-- How a session without a transform starts: over any two caches that answer, or over those
of a database file, whatever the file holds. -/
inductive Start (o : Options) : Session σ → Prop
  | memory {settings : EngineSettings} {requests metadata : Cache} {e : Engine}
    (files : FileTree) (w : σ) (ho : o.storage = .memory) (hrequests : requests.Sound)
    (hmetadata : metadata.Sound) (hplain : settings.transform = none)
    (he : Engine.create settings requests metadata = .ok e) : Start o ⟨e, files, w⟩
  | database {settings : EngineSettings} {files files' : FileTree} {c : Caches} {e : Engine}
    (w : σ) (ho : o.storage = .database) (hopen : Caches.create o files = (.ok c, files'))
    (hplain : settings.transform = none)
    (he : Engine.create settings c.requests c.metadata = .ok e) : Start o ⟨e, files', w⟩

/-- A step of a session, with the changes that it makes to the records. -/
inductive Step (o : Options) (s : Surroundings σ) : Session σ → List Change → Session σ → Prop
  | act (st : Session σ) (a : Engine.Action) :
    Step o s st (st.engine.changes s st.world a) (st.after s a)
  /-- The world goes on by itself. -/
  | elapse (st : Session σ) (w : σ) : Step o s st [] { st with world := w }
  /-- The engine is closed, and another one is opened over the same database file. -/
  | reopen {st : Session σ} {settings : EngineSettings} {files : FileTree} {c : Caches}
    {e : Engine} (ho : o.storage = .database)
    (hopen : Caches.create o
      (Caches.save ⟨st.engine.requests, st.engine.metadata⟩ o st.files) = (.ok c, files))
    (hplain : settings.transform = none)
    (he : Engine.create settings c.requests c.metadata = .ok e) :
    Step o s st [] { st with engine := e, files }

/-- A run of steps, with all their changes in order. -/
inductive Run (o : Options) (s : Surroundings σ) : Session σ → List Change → Session σ → Prop
  | refl (st : Session σ) : Run o s st [] st
  | step {st st' st'' : Session σ} {changes more : List Change} (h : Run o s st changes st')
    (hstep : Step o s st' more st'') : Run o s st (changes ++ more) st''

variable {o : Options} {s : Surroundings σ} {st st' : Session σ} {changes : List Change}

/-! ### What stays -/

/-- The engine has no transform, its caches answer, and if they are kept in a database, they
can be closed and opened again. -/
structure Intact (o : Options) (st : Session σ) : Prop where
  plain : st.engine.transform = none
  requests : st.engine.requests.Sound
  metadata : st.engine.metadata.Sound
  opened : o.storage = .database →
    Caches.Opened o st.files ⟨st.engine.requests, st.engine.metadata⟩

theorem Start.intact (h : Start o st) : Intact o st := by
  cases h with
  | memory files w ho hrequests hmetadata hplain he =>
    obtain ⟨rfl, rfl, htransform⟩ := Engine.create_eq_ok he
    exact ⟨htransform.trans hplain, hrequests, hmetadata, fun h => by simp [ho] at h⟩
  | database w ho hopen hplain he =>
    have hopened := Caches.opened_of_create ho hopen
    obtain ⟨hrequests, hmetadata, htransform⟩ := Engine.create_eq_ok he
    refine ⟨htransform.trans hplain, ?_, ?_, fun _ => ?_⟩
    · exact hrequests ▸ hopened.requests.1
    · exact hmetadata ▸ hopened.metadata.1
    · rw [hrequests, hmetadata]
      exact hopened

/-- In an intact session, what is opened again are the caches that were closed. -/
theorem Intact.reopen (h : Intact o st) (ho : o.storage = .database) {c : Caches}
    {files : FileTree}
    (hopen : Caches.create o
      (Caches.save ⟨st.engine.requests, st.engine.metadata⟩ o st.files) = (.ok c, files)) :
    c = ⟨st.engine.requests, st.engine.metadata⟩ ∧ Caches.Opened o files c := by
  obtain ⟨files', hcreate, hopened⟩ := Caches.create_save ho (h.opened ho)
  rw [hcreate] at hopen
  cases hopen
  exact ⟨rfl, hopened⟩

theorem Step.intact (hstep : Step o s st changes st') (h : Intact o st) : Intact o st' := by
  cases hstep with
  | act a =>
    have hfollows := Engine.act_follows s st.engine a st.world
    have hrequests : (st.after s a).engine.requests.Sound := by
      rw [after, hfollows.requests]
      exact Change.sound_foldl h.requests _
    have hmetadata : (st.after s a).engine.metadata.Sound := by
      intro op
      rw [after, hfollows.metadata.1]
      exact h.metadata op
    -- an action leaves the files alone and both caches in their tables
    refine ⟨hfollows.transform.trans h.plain, hrequests, hmetadata, fun ho => ?_⟩
    obtain ⟨hholds, ⟨-, hrows⟩, -, hrows'⟩ := h.opened ho
    refine ⟨hholds, ⟨hrequests, ?_⟩, hmetadata, hfollows.metadata.2.trans hrows'⟩
    show (st.after s a).engine.requests.backing.isTable = true
    rw [after, hfollows.requests, Change.isTable_foldl]
    exact hrows
  | elapse w => exact ⟨h.plain, h.requests, h.metadata, h.opened⟩
  | reopen ho hopen hplain he =>
    -- the other engine has settings of its own, but the same caches
    obtain ⟨rfl, hopened⟩ := h.reopen ho hopen
    obtain ⟨hrequests, hmetadata, htransform⟩ := Engine.create_eq_ok he
    refine ⟨htransform.trans hplain, ?_, ?_, fun _ => ?_⟩
    · exact hrequests ▸ h.requests
    · exact hmetadata ▸ h.metadata
    · rw [hrequests, hmetadata]
      exact hopened

/-- The records follow the changes of a step. -/
theorem Step.requests (hstep : Step o s st changes st') (h : Intact o st) :
    st'.engine.requests = changes.foldl Change.apply st.engine.requests := by
  cases hstep with
  | act a => exact (Engine.act_follows s st.engine a st.world).requests
  | elapse w => rfl
  | reopen ho hopen hplain he =>
    obtain ⟨rfl, -⟩ := h.reopen ho hopen
    exact (Engine.create_eq_ok he).1

theorem Run.intact (hrun : Run o s st changes st') (h : Intact o st) : Intact o st' := by
  induction hrun with
  | refl => exact h
  | step _ hstep ih => exact hstep.intact ih

/-- **The records follow the changes of a run.** -/
theorem Run.requests (hrun : Run o s st changes st') (h : Intact o st) :
    st'.engine.requests = changes.foldl Change.apply st.engine.requests := by
  induction hrun with
  | refl => rfl
  | step hrun hstep ih =>
    rw [hstep.requests (hrun.intact h), ih, List.foldl_append]

/-- The responses that a run stores have canonical headers. -/
theorem Run.canonical (hrun : Run o s st changes st') {x : Exchange}
    (hx : .stored x ∈ changes) : x.response.headers.Canonical := by
  induction hrun with
  | refl => cases hx
  | step _ hstep ih =>
    rcases List.mem_append.1 hx with hx | hx
    · exact ih hx
    · cases hstep with
      | act a => exact (Engine.canonical_of_stored hx).1
      | elapse => cases hx
      | reopen => cases hx

/-! ### Replaying -/

/-- An exchange that is held under the key of a request is replayed, and no part of any world
takes notice. -/
theorem Intact.replays (h : Intact o st) (hmode : st.engine.mode = .simulate) {r : Request}
    {x : Exchange} (hlookup : st.engine.lookup r.key = .ok x) {τ : Type} (s' : Surroundings τ)
    (w : τ) :
    (st.engine.process s' r w).1.1 = x.response ∧ (st.engine.process s' r w).2 = w := by
  obtain ⟨hresponse, hworld⟩ := Engine.process_simulate hmode s' r w
  rw [hresponse, hworld, Engine.simulate_of_lookup h.plain hlookup]
  exact ⟨rfl, rfl⟩

/-- What was stored with canonical headers in the response is looked up with that response. -/
theorem Intact.lookup_of_held (h : Intact o st) {key : Bytes} {x : Exchange}
    (hget : st.engine.requests.backing.get? key = some x.encode)
    (hx : x.response.headers.Canonical) :
    st.engine.lookup key = .ok x.canonical ∧ x.canonical.response = x.response := by
  refine ⟨?_, ?_⟩
  · rw [Engine.lookup_of_sound h.requests, hget]
    simp only [Exchange.decode_encode_eq]
  · rw [Exchange.canonical, Headers.canonical_eq_self hx]

/-- The exchange that was stored most recently under a key: by a run or, if its changes spare
the key, before the run, when the records were those of `c`. -/
def MostRecent (c : Cache) (changes : List Change) (key : Bytes) (x : Exchange) : Prop :=
  Change.Latest key changes x ∨
    (∀ change ∈ changes, change.Spares key) ∧
      ∃ value, c.backing.get? key = some value ∧ Exchange.decode value = .ok x

/-- A simulation fails, with a status that says so, because nothing is held or nothing that
can be read. -/
def Fails (e : Engine) (r : Request) (response : Response) : Prop :=
  ∃ err, e.lookup r.key = .error err ∧ response.status = if err.isNotFound then 412 else 500

/-- What a session answers from the records is what was stored most recently. -/
theorem Run.simulates (hrun : Run o s st changes st') (h : Intact o st)
    (hmode : st'.engine.mode = .simulate) (r : Request) {τ : Type} (s' : Surroundings τ) (w : τ) :
    (∃ x, MostRecent st.engine.requests changes r.key x ∧
        (st'.engine.process s' r w).1.1 = x.response) ∨
      Fails st'.engine r (st'.engine.process s' r w).1.1 := by
  have h' := hrun.intact h
  have hrequests := hrun.requests h
  -- what is looked up decides, and the changes say what can be found
  cases hlookup : st'.engine.lookup r.key with
  | error err =>
    refine .inr ⟨err, hlookup, ?_⟩
    rw [(Engine.process_simulate hmode s' r w).1]
    exact Engine.simulate_of_lookup_error hlookup s'.outside w
  | ok found =>
    refine .inl ?_
    rw [(h'.replays hmode hlookup s' w).1]
    rcases Change.latest_or_forgotten_or_spares r.key changes with ⟨x, hx⟩ | hforgotten | hspares
    · -- the run stored it, and the codec gives back the response
      have hget := Change.get?_of_latest h.requests hx
      rw [← hrequests] at hget
      obtain ⟨before, after, rfl, -, -⟩ := id hx
      obtain ⟨hheld, hresponse⟩ := h'.lookup_of_held hget (hrun.canonical (by simp))
      obtain rfl : x.canonical = found := Except.ok.inj (hheld.symm.trans hlookup)
      exact ⟨x, .inl hx, hresponse⟩
    · -- nothing is held any more, so nothing could be found
      have hget := Change.get?_of_forgotten h.requests hforgotten
      rw [Engine.lookup_of_sound h'.requests, hrequests, hget] at hlookup
      cases hlookup
    · -- it was there before the run began
      obtain ⟨value, hget, hdecode⟩ := Engine.held_of_lookup h'.requests hlookup
      rw [hrequests, Change.get?_foldl_of_spares hspares] at hget
      exact ⟨found, .inr ⟨hspares, value, hget, hdecode⟩, rfl⟩

/-- A capture stores what the destination answers. -/
theorem Intact.captures (h : Intact o st) (hmode : st.engine.mode = .capture) {r : Request}
    {response : Response}
    (hforward : (Forward.forward st.engine.forwarding s r st.world).1 = .ok response) :
    (st.engine.process s r st.world).1.1 = response ∧
      st.engine.changes s st.world (.process r) = [.stored (Engine.recording r response)] := by
  obtain ⟨hcaptured, hresponse⟩ := Engine.captured_of_forward h.plain hforward
  refine ⟨?_, ?_⟩
  · simp only [Engine.process, Engine.answer, hmode, bind_apply, pure_apply]
    exact hresponse
  · simp only [Engine.changes, Engine.recorded, hmode, hcaptured, Engine.recordings]

/-- **Capture, then replay.** Take any state that a session reaches.

* If a request is captured there and its destination answers, the answer is returned; and
  after any further run that spares the fingerprint, a simulation of any request with the same
  fingerprint returns the very same response, whatever the world around it, which it leaves as
  it was.
* If a request is simulated there, the response is that of the exchange stored most recently
  under its fingerprint, unless nothing that can be read is held there and the simulation says
  so. -/
theorem simulate_replays (hstart : Start o st) (hrun : Run o s st changes st') :
    (∀ r response, st'.engine.mode = .capture →
      (Forward.forward st'.engine.forwarding s r st'.world).1 = .ok response →
        (st'.engine.process s r st'.world).1.1 = response ∧
          ∀ later st'', Run o s (st'.after s (.process r)) later st'' →
            (∀ change ∈ later, change.Spares r.key) → st''.engine.mode = .simulate →
              ∀ r' : Request, r'.key = r.key → ∀ {τ : Type} (s' : Surroundings τ) (w : τ),
                (st''.engine.process s' r' w).1.1 = response ∧
                  (st''.engine.process s' r' w).2 = w) ∧
      (st'.engine.mode = .simulate → ∀ r {τ : Type} (s' : Surroundings τ) (w : τ),
        (∃ x, MostRecent st.engine.requests changes r.key x ∧
            (st'.engine.process s' r w).1.1 = x.response) ∨
          Fails st'.engine r (st'.engine.process s' r w).1.1) := by
  have h := hstart.intact
  have h' := hrun.intact h
  refine ⟨fun r response hmode hforward => ?_, fun hmode r _ s' w => ?_⟩
  · obtain ⟨hresponse, hchanges⟩ := h'.captures hmode hforward
    refine ⟨hresponse, fun later st'' hlater hspares hmode' r' hkey _ s' w => ?_⟩
    have hstep : Step o s st' _ (st'.after s (.process r)) := .act st' (.process r)
    have hafter := hstep.intact h'
    -- the exchange is held after the capture, and the run spares it
    have hlatest : Change.Latest r.key (st'.engine.changes s st'.world (.process r))
        (Engine.recording r response) := ⟨[], [], hchanges, rfl, by simp⟩
    have hget := Change.get?_of_latest h'.requests hlatest
    rw [← hstep.requests h', ← Change.get?_foldl_of_spares hspares, ← hlater.requests hafter,
      ← hkey] at hget
    -- the codec gives the response back as it was, since it is canonical
    have hcanonical := Forward.canonical_of_forward hforward
    obtain ⟨hlookup, hsame⟩ := (hlater.intact hafter).lookup_of_held hget hcanonical
    rw [← show (Engine.recording r response).canonical.response = response from hsame]
    exact (hlater.intact hafter).replays hmode' hlookup s' w
  · exact hrun.simulates h hmode r s' w

/-- An order is captured by an engine over a new database file, the engine is closed, and
another one over the same file replays the answer to the same order over `https`. -/
theorem simulate_replays_order :
    ∃ (st st' : Session Unit) (response : Response),
      Start {} st ∧ st.engine.mode = .capture ∧
        (Forward.forward st.engine.forwarding Engine.answering Engine.order st.world).1 =
          .ok response ∧
        Run {} Engine.answering (st.after Engine.answering (.process Engine.order)) [] st' ∧
        st'.engine.mode = .simulate ∧
        (st'.engine.process Engine.answering { Engine.order with scheme := "https" } ()).1.1 =
          response := by
  obtain ⟨c, files, hcreate⟩ := Caches.create_default
  obtain ⟨e, he, hmode, hforwarding⟩ : ∃ e, Engine.create { mode := .capture } c.requests
      c.metadata = .ok e ∧ e.mode = .capture ∧ e.forwarding = {} := ⟨_, rfl, rfl, rfl⟩
  let st : Session Unit := ⟨e, files, ()⟩
  have hstart : Start {} st := .database () rfl hcreate rfl he
  obtain ⟨response, hresponse⟩ : ∃ response,
      (Forward.forward st.engine.forwarding Engine.answering Engine.order st.world).1 =
        .ok response := by
    have hok : (Forward.forward {} Engine.answering Engine.order ()).1.toOption.isSome = true := by
      decide +kernel
    show ∃ response,
      (Forward.forward e.forwarding Engine.answering Engine.order ()).1 = .ok response
    rw [hforwarding]
    cases hforward : (Forward.forward {} Engine.answering Engine.order ()).1 with
    | error err => simp [hforward, Except.toOption] at hok
    | ok response => exact ⟨response, rfl⟩
  -- closing the engine and opening one that simulates
  have hstep : Step {} Engine.answering st _ (st.after Engine.answering (.process Engine.order)) :=
    .act st (.process Engine.order)
  have hintact := hstep.intact hstart.intact
  obtain ⟨files', hopen, -⟩ := Caches.create_save rfl (hintact.opened rfl)
  obtain ⟨e', he', hmode'⟩ : ∃ e', Engine.create { mode := .simulate }
      (st.after Engine.answering (.process Engine.order)).engine.requests
      (st.after Engine.answering (.process Engine.order)).engine.metadata = .ok e' ∧
        e'.mode = .simulate := ⟨_, rfl, rfl⟩
  have hrun := Run.step (.refl _)
    (Step.reopen (o := {}) (s := Engine.answering) rfl hopen rfl he')
  -- the request differs in its scheme, which the fingerprint does not see
  have hreplay := ((simulate_replays hstart (.refl st)).1 Engine.order response hmode
    hresponse).2 [] _ hrun (by simp) hmode' { Engine.order with scheme := "https" } rfl
    Engine.answering ()
  exact ⟨st, _, response, hstart, hmode, hresponse, hrun, hmode', hreplay.1⟩

end Session

end ReplayProxy
