import ReplayProxy.Proofs.Engine.Modes
import ReplayProxy.Proofs.Engine.Replay
import ReplayProxy.Proofs.Service.Events

/-!
# Modes and their transforms

Two modes cannot work without a transform. Whether the transform is there is looked at in three
places: when the engine is made, when its mode is set, and when the administration changes the
state. The transform never changes, so it is enough that all three look before the mode is
switched. Then an engine in service is *equipped* at any time (`Engine.Equipped`), and what the
two modes say about a transform that is missing is never said.

The mode itself is a matter of history: it is the one that was switched to last
(`Service.mode_after`).

Main statement:

* `Service.wellSet_after`: after any events, the mode has the transform that it needs, and setting
  a mode does what it should (`Service.WellSet`).
-/

namespace ReplayProxy

theorem Mode.requiresTransform_iff {m : Mode} :
    m.requiresTransform = true ↔ m = .modify ∨ m = .synthesize := by
  cases m <;> simp [requiresTransform]

namespace Engine

/-- The transform is there if the mode cannot work without it. -/
def Equipped (e : Engine) : Prop := e.mode.requiresTransform = true → e.transform ≠ none

/-- An engine is not made with a mode that lacks its transform. -/
theorem equipped_of_create {settings : EngineSettings} {requests metadata : Cache} {e : Engine}
    (h : create settings requests metadata = .ok e) : Equipped e := by
  obtain ⟨hcheck, pattern, -, rfl⟩ := create_eq_ok_iff.1 h
  intro hrequires hnone
  simp only at hrequires hnone
  -- the settings would not have passed the check
  rw [hnone, checkMode, hrequires] at hcheck
  cases hcheck

/-- In the two modes that need it, an equipped engine calls its transform first. The answer that
says that it is missing is given without any call. -/
theorem Equipped.calls {e : Engine} (h : Equipped e)
    (hmode : e.mode = .modify ∨ e.mode = .synthesize) (o : Outside σ) (r : Request) (w : σ) :
    ∃ t outcome rest, e.transform = some t ∧
      e.calls o r w = .transformed t { request := r } r.fingerprint outcome :: rest := by
  have hthere : e.transform ≠ none := h (Mode.requiresTransform_iff.2 hmode)
  have hcourse := answer_course e o r w
  generalize e.calls o r w = calls at hcourse ⊢
  generalize (e.answer o r w).1.1 = response at hcourse
  generalize e.recorded o r w = changes at hcourse
  cases hcourse with
  | cannotModify _ hplain | cannotSynthesize _ hplain => exact absurd hplain hthere
  | notModified _ ht | notAnswered _ ht | notModifiedBack _ ht | modified _ ht
  | notSynthesized _ ht | invalid _ ht | synthesized _ ht => exact ⟨_, _, _, ht, rfl⟩
  -- the other courses are those of other modes
  | _ hother => exact absurd hother (by rcases hmode with hmode | hmode <;> simp [hmode])

/-! ### Switching -/

theorem switchMode_eq (e : Engine) (m : Mode) :
    e.switchMode m =
      if m.requiresTransform = true ∧ e.transform = none then .error (.missingTransform m)
      else .ok (e.mode, { e with mode := m }) := by
  rw [switchMode, setMode_eq]
  split <;> rfl

theorem switchMode_eq_error_iff {e : Engine} {m : Mode} {err : ProxyError} :
    e.switchMode m = .error err ↔
      (m.requiresTransform = true ∧ e.transform = none) ∧ err = .missingTransform m := by
  rw [switchMode_eq]
  by_cases hlacks : m.requiresTransform = true ∧ e.transform = none
  · rw [if_pos hlacks, Except.error.injEq, and_iff_right hlacks, eq_comm]
  · rw [if_neg hlacks]
    exact ⟨fun h => (nomatch h), fun h => absurd h.1 hlacks⟩

theorem switchMode_eq_ok_iff {e e' : Engine} {m previous : Mode} :
    e.switchMode m = .ok (previous, e') ↔
      ¬(m.requiresTransform = true ∧ e.transform = none) ∧ previous = e.mode ∧
        e' = { e with mode := m } := by
  rw [switchMode_eq]
  by_cases hlacks : m.requiresTransform = true ∧ e.transform = none
  · rw [if_pos hlacks]
    exact ⟨fun h => (nomatch h), fun h => absurd hlacks h.1⟩
  · rw [if_neg hlacks, Except.ok.injEq, Prod.mk.injEq, and_iff_right hlacks, eq_comm,
      @eq_comm _ e']

/-- A mode to which an action switches does not lack its transform. -/
theorem transform_of_switchOf? {e : Engine} {a : Action} {m : Mode} (h : e.switchOf? a = some m)
    (hrequires : m.requiresTransform = true) : e.transform ≠ none := by
  intro hnone
  cases a with
  | setMode m' =>
    rw [switchOf?, setMode_eq] at h
    by_cases hlacks : m'.requiresTransform = true ∧ e.transform = none
    · rw [if_pos hlacks] at h
      cases h
    · rw [if_neg hlacks] at h
      cases h
      exact hlacks ⟨hrequires, hnone⟩
  | _ => cases h

end Engine

/-! ### Setting the mode from outside -/

/-- A change of the state that names a mode and nothing else does what setting the mode does. -/
theorem Admin.answer_of_mode {e : Engine} {r : ClientRequest} {body : Bytes} {name : String}
    {m : Mode} (hmethod : r.method = "POST") (hpath : r.uri.path = "/api/state")
    (hjson : announcesJson r = true) (hbody : r.body = .ok body) (hlength : body.length ≤ bodyLimit)
    (hread : Json.decode StateChange.ofTree body = .ok { mode := some name })
    (hparse : Mode.parse name = .ok m) : (answer e r).2 = e.kept (e.setMode m) := by
  rw [answer_post_state hmethod hpath, jsonOf_eq hjson hbody hlength hread, Engine.setMode_eq]
  by_cases hlacks : m.requiresTransform = true ∧ e.transform = none
  · have hnot : ¬Acceptable e { mode := some name } := by
      intro hacceptable
      obtain ⟨m', hparse', htransform⟩ := hacceptable.mode name rfl
      obtain rfl : m' = m := Except.ok.inj (hparse'.symm.trans hparse)
      exact htransform hlacks.1 hlacks.2
    obtain ⟨reason, hrefused⟩ := changeState_of_not_acceptable hnot
    rw [hrefused, if_pos hlacks]
    rfl
  · have hacceptable : Acceptable e { mode := some name } := by
      refine ⟨fun name' hname' => ⟨m, ?_, fun hrequires hnone => hlacks ⟨hrequires, hnone⟩⟩, ?_⟩
      · obtain rfl : name = name' := Option.some.inj hname'
        exact hparse
      · exact fun text htext => absurd htext (by simp)
    obtain ⟨e', hdone, hchanged⟩ := changeState_of_acceptable hacceptable
    -- no destination was named, so only the mode is new
    have hmode : e'.mode = m := Except.ok.inj (hchanged.mode.symm.trans hparse)
    have hengine : e' = { e with mode := m } := by
      rw [hchanged.frame, hmode, hchanged.destination.1, hchanged.destination.2]
    rw [hdone, if_neg hlacks, ← hengine]
    rfl

namespace Service

variable {σ : Type} {s : Surroundings σ} {st : Service σ}

/-! ### Runs -/

/-- The modes to which the events of a run switch, in order. -/
def switches (s : Surroundings σ) (st : Service σ) : List (Event σ) → List Mode
  | [] => []
  | event :: events => (st.switch? event).toList ++ switches s (st.occur s event) events

/-- **The mode.** After a run it is the mode that was switched to last. -/
theorem mode_after (s : Surroundings σ) (st : Service σ) (events : List (Event σ)) :
    (st.after s events).engine.mode = (st.switches s events).getLastD st.engine.mode := by
  induction events generalizing st with
  | nil => rfl
  | cons event events ih =>
    have hmode := (moves_occur s st event).mode
    have hrest := ih (st.occur s event)
    rw [hmode] at hrest
    rw [switches]
    refine hrest.trans ?_
    -- a switch at the front counts only if none follows
    cases st.switch? event with
    | none => rfl
    | some m => exact List.getLastD_cons.symm

theorem equipped_occur (h : st.engine.Equipped) (event : Event σ) :
    (st.occur s event).engine.Equipped := by
  have hmoves := moves_occur s st event
  intro hrequires
  rw [hmoves.mode] at hrequires
  rw [hmoves.transform]
  cases hswitch : st.switch? event with
  | none =>
    rw [hswitch] at hrequires
    exact h hrequires
  | some m =>
    rw [hswitch] at hrequires
    -- whoever switched the mode looked for the transform before
    cases event with
    | administered r => exact Admin.transform_of_switchOf? hswitch hrequires
    | acted a => exact Engine.transform_of_switchOf? hswitch hrequires
    | _ => cases hswitch

/-- **The invariant.** A run leaves an equipped engine equipped. -/
theorem equipped_after (h : st.engine.Equipped) (events : List (Event σ)) :
    (st.after s events).engine.Equipped := by
  induction events generalizing st with
  | nil => exact h
  | cons event events ih => exact ih (equipped_occur h event)

/-! ### Setting the mode -/

/-- The mode of an engine in service has the transform that it needs, and can be set. -/
structure WellSet (s : Surroundings σ) (st : Service σ) : Prop where
  /-- A mode that cannot work without a transform has one, -/
  equipped : st.engine.mode.requiresTransform = true → st.engine.transform ≠ none
  /-- and in such a mode every request goes to the transform first. -/
  transforms : st.engine.mode = .modify ∨ st.engine.mode = .synthesize →
    ∀ {τ : Type} (o : Outside τ) (r : Request) (v : τ), ∃ t outcome rest,
      st.engine.transform = some t ∧
        st.engine.calls o r v = .transformed t { request := r } r.fingerprint outcome :: rest
  /-- Setting a mode fails for the two modes that lack their transform, and for no other. -/
  refused : ∀ m, (∃ err, st.engine.switchMode m = .error err) ↔
    (m = .modify ∨ m = .synthesize) ∧ st.engine.transform = none
  /-- When it fails, everything stays as it was. -/
  kept : ∀ m err, st.engine.switchMode m = .error err →
    err = .missingTransform m ∧ st.occur s (.acted (.setMode m)) = st
  /-- When it does not, the mode before is told, and nothing but the mode is changed. -/
  switched : ∀ m previous e, st.engine.switchMode m = .ok (previous, e) →
    previous = st.engine.mode ∧ e = { st.engine with mode := m } ∧
      st.occur s (.acted (.setMode m)) = ⟨e, st.world⟩
  /-- The new mode is that of all later requests, until another one is switched to. -/
  lasting : ∀ m previous e, st.engine.switchMode m = .ok (previous, e) →
    ∀ later : List (Event σ), switches s ⟨e, st.world⟩ later = [] →
      let st' := after s ⟨e, st.world⟩ later
      st'.engine.mode = m ∧ ∀ r, st'.engine.takesUp r = true →
        (st'.occur s (.requested r)).engine.counters = st'.engine.counters.increment m
  /-- The administration sets a mode just as the engine does. -/
  agreed : ∀ r body name m, r.method = "POST" → r.uri.path = "/api/state" →
    Admin.announcesJson r = true → r.body = .ok body → body.length ≤ Admin.bodyLimit →
      Json.decode StateChange.ofTree body = .ok { mode := some name } → Mode.parse name = .ok m →
        st.occur s (.administered r) = st.occur s (.acted (.setMode m))

theorem occur_setMode (s : Surroundings σ) (st : Service σ) (m : Mode) :
    st.occur s (.acted (.setMode m)) =
      if m.requiresTransform = true ∧ st.engine.transform = none then st
      else { st with engine := { st.engine with mode := m } } := by
  show Service.mk (st.engine.kept (st.engine.setMode m)) st.world = _
  rw [Engine.setMode_eq]
  split <;> rfl

/-- What holds of an equipped engine. -/
theorem wellSet_of_equipped (h : st.engine.Equipped) : WellSet s st where
  equipped := h
  transforms hmode := fun o r v => h.calls hmode o r v
  refused m := by
    simp only [Engine.switchMode_eq_error_iff, exists_and_left, exists_eq, and_true,
      Mode.requiresTransform_iff]
  kept m err herr := by
    obtain ⟨hlacks, rfl⟩ := Engine.switchMode_eq_error_iff.1 herr
    refine ⟨rfl, ?_⟩
    rw [occur_setMode, if_pos hlacks]
  switched m previous e hswitch := by
    obtain ⟨hhas, rfl, rfl⟩ := Engine.switchMode_eq_ok_iff.1 hswitch
    refine ⟨rfl, rfl, ?_⟩
    rw [occur_setMode, if_neg hhas]
  lasting m previous e hswitch later hnone := by
    obtain ⟨-, -, rfl⟩ := Engine.switchMode_eq_ok_iff.1 hswitch
    -- nothing was switched to later, so the mode is the one at the beginning
    have hmode : (after s ⟨{ st.engine with mode := m }, st.world⟩ later).engine.mode = m := by
      rw [mode_after, hnone]
      rfl
    refine ⟨hmode, fun r htakes => ?_⟩
    rw [(moves_occur s _ (.requested r)).counters, hmode, counted, if_pos htakes]
  agreed r body name m hmethod hpath hjson hbody hlength hread hparse := by
    show Service.mk (Admin.answer st.engine r).2 st.world = _
    rw [Admin.answer_of_mode hmethod hpath hjson hbody hlength hread hparse]
    rfl

/-- **Modes always have their transform.** Whatever happens to an engine after it was made, its
mode has the transform that it needs and can be set as it should: by the engine, and just so by the
administration. -/
theorem wellSet_after {settings : EngineSettings} {requests metadata : Cache} {e : Engine}
    (hcreate : Engine.create settings requests metadata = .ok e) (s : Surroundings σ) (w : σ)
    (events : List (Event σ)) : WellSet s (after s ⟨e, w⟩ events) := by
  have hequipped : (Service.mk e w).engine.Equipped := Engine.equipped_of_create hcreate
  exact wellSet_of_equipped (equipped_after hequipped events)

/-- An engine with a transform, made to modify: it captures for a time, and then the administration
has it synthesize. -/
theorem wellSet_after_steered :
    ∃ e, Engine.create { mode := .modify, transform := some { definition := .command "cat" [] } }
        .inMemory .inMemory = .ok e ∧
      WellSet Engine.answering
        (after Engine.answering ⟨e, ()⟩ [.acted (.setMode .capture),
          .administered (Admin.asking "POST" "/api/state" "[\"synthesize\"]")]) ∧
      (after Engine.answering ⟨e, ()⟩ [.acted (.setMode .capture),
        .administered (Admin.asking "POST" "/api/state" "[\"synthesize\"]")]).engine.mode =
          .synthesize := by
  obtain ⟨e, he⟩ : ∃ e, Engine.create
      { mode := .modify, transform := some { definition := .command "cat" [] } }
      .inMemory .inMemory = .ok e := ⟨_, rfl⟩
  refine ⟨e, he, wellSet_after he _ _ _, ?_⟩
  have htransform : e.transform ≠ none := by
    rw [(Engine.create_eq_ok he).2.2]
    exact Option.some_ne_none _
  have hread : Json.decode StateChange.ofTree (Bytes.ofText "[\"synthesize\"]") =
      .ok { mode := some "synthesize" } := eq_ok_of_toOption (by decide +kernel)
  have hparse : Mode.parse "synthesize" = .ok .synthesize := eq_ok_of_toOption (by decide +kernel)
  -- the first switch leaves the transform, which the second one needs
  rw [after, List.foldl_cons, List.foldl_cons, List.foldl_nil]
  show (Admin.answer _ _).2.mode = _
  rw [Admin.answer_of_mode rfl rfl (Admin.announcesJson_asking _ _ _) rfl (by decide) hread hparse,
    Engine.setMode_eq,
    (moves_occur Engine.answering ⟨e, ()⟩ (.acted (.setMode .capture))).transform,
    if_neg fun h => htransform h.2]
  rfl

end Service

end ReplayProxy
