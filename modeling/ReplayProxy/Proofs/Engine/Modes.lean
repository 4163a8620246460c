import ReplayProxy.Proofs.Engine.Answers
import ReplayProxy.Proofs.Forward.Sending

/-!
# What each mode asks of the world

An engine that answers a request calls a transform and a destination, in an order that its
mode fixes, and each call may fail. `Outside.traced` writes the calls down as they are made,
each with what came of it; it changes nothing else (`Engine.answer_traced`). What an answer
consists of is then a relation between the calls, the response and the changes of the records:
a *course* (`Engine.Course`), with one constructor for every way through a mode. All that is
said about the modes is read off the courses.

Main statements:

* `Engine.answer_course`: every answer takes a course, whatever the calls bring.
* `Engine.answer_contained`: the modes ask no more of the world than they should, and a
  failure is contained (`Engine.Contained`). It has the status that is due and leaves the
  records alone.
-/

namespace ReplayProxy

/-- A call to the outside and what came of it. -/
inductive Call where
  | transformed (t : Transform) (x : Exchange) (id : String)
    (outcome : Except TransformError Exchange)
  | forwarded (r : Request) (outcome : Except ProxyError Response)

namespace Call

/-- The call goes to a destination. -/
def isForward : Call → Bool
  | .transformed .. => false
  | .forwarded .. => true

/-- Nothing came of the call but an error. -/
def Failed : Call → Prop
  | .transformed _ _ _ outcome => ∃ err, outcome = .error err
  | .forwarded _ outcome => ∃ err, outcome = .error err

end Call

/-! ### Tracing -/

/-- The same outside, with the calls written down in order. -/
def Outside.traced (o : Outside σ) : Outside (σ × List Call) where
  transform t x id v :=
    let result := o.transform t x id v.1
    (result.1, (result.2, v.2 ++ [.transformed t x id result.1]))
  forward settings r v :=
    let result := o.forward settings r v.1
    (result.1, (result.2, v.2 ++ [.forwarded r result.1]))

variable {σ α β : Type}

/-- Two computations give the same and leave the same world, one of them with calls beside it. -/
def Mirrors (m : StateM (σ × List Call) α) (m' : StateM σ α) : Prop :=
  ∀ v, (m v).1 = (m' v.1).1 ∧ (m v).2.1 = (m' v.1).2

namespace Mirrors

theorem pure (a : α) : Mirrors (pure a : StateM (σ × List Call) α) (pure a) :=
  fun _ => ⟨rfl, rfl⟩

theorem bind {m : StateM (σ × List Call) α} {m' : StateM σ α} {f : α → StateM (σ × List Call) β}
    {f' : α → StateM σ β} (h : Mirrors m m') (hf : ∀ a, Mirrors (f a) (f' a)) :
    Mirrors (m >>= f) (m' >>= f') := by
  intro v
  obtain ⟨hvalue, hworld⟩ := h v
  rw [bind_apply, bind_apply, ← hvalue, ← hworld]
  exact hf _ _

theorem transform (o : Outside σ) (t : Transform) (x : Exchange) (id : String) :
    Mirrors (o.traced.transform t x id) (o.transform t x id) := fun _ => ⟨rfl, rfl⟩

theorem forward (o : Outside σ) (settings : ForwardSettings) (r : Request) :
    Mirrors (o.traced.forward settings r) (o.forward settings r) := fun _ => ⟨rfl, rfl⟩

end Mirrors

namespace Engine

-- A mode makes the same calls whether they are written down or not, so each of these proofs
-- follows the text of its mode from call to call.

theorem virtualize_traced (e : Engine) (o : Outside σ) (r : Request) :
    Mirrors (e.virtualize o.traced r) (e.virtualize o r) := by
  refine (Mirrors.forward o e.forwarding r).bind fun outcome => ?_
  cases outcome <;> exact .pure _

theorem prepared_traced (e : Engine) (o : Outside σ) (r : Request) :
    Mirrors (e.prepared o.traced r) (e.prepared o r) := by
  unfold prepared
  cases e.transform with
  | none => exact .pure _
  | some t =>
    refine (Mirrors.transform o t _ _).bind fun outcome => ?_
    cases outcome <;> exact .pure _

theorem captured_traced (e : Engine) (o : Outside σ) (r : Request) :
    Mirrors (e.captured o.traced r) (e.captured o r) := by
  refine (prepared_traced e o r).bind fun outcome => ?_
  cases outcome with
  | error err => exact .pure _
  | ok outgoing =>
    refine (Mirrors.forward o e.forwarding outgoing).bind fun outcome => ?_
    cases outcome <;> exact .pure _

theorem capture_traced (e : Engine) (o : Outside σ) (r : Request) :
    Mirrors (e.capture o.traced r) (e.capture o r) := by
  refine (prepared_traced e o r).bind fun outcome => ?_
  cases outcome with
  | error err => exact .pure _
  | ok outgoing =>
    refine (Mirrors.forward o e.forwarding outgoing).bind fun outcome => ?_
    cases outcome <;> exact .pure _

theorem simulate_traced (e : Engine) (o : Outside σ) (r : Request) :
    Mirrors (e.simulate o.traced r) (e.simulate o r) := by
  unfold simulate
  cases e.lookup r.key with
  | error err =>
    by_cases hmissing : err.isNotFound = true
    · simp only [if_pos hmissing]
      exact .pure _
    · simp only [if_neg hmissing]
      exact .pure _
  | ok found =>
    cases e.transform with
    | none => exact .pure _
    | some t =>
      refine (Mirrors.transform o t _ _).bind fun outcome => ?_
      cases outcome <;> exact .pure _

theorem modify_traced (e : Engine) (o : Outside σ) (r : Request) :
    Mirrors (e.modify o.traced r) (e.modify o r) := by
  unfold modify
  cases e.transform with
  | none => exact .pure _
  | some t =>
    refine (Mirrors.transform o t _ _).bind fun outcome => ?_
    cases outcome with
    | error err => exact .pure _
    | ok outgoing =>
      refine (Mirrors.forward o e.forwarding outgoing.request).bind fun outcome => ?_
      cases outcome with
      | error err => exact .pure _
      | ok response =>
        refine (Mirrors.transform o t _ _).bind fun outcome => ?_
        cases outcome <;> exact .pure _

theorem synthesize_traced (e : Engine) (o : Outside σ) (r : Request) :
    Mirrors (e.synthesize o.traced r) (e.synthesize o r) := by
  unfold synthesize
  cases e.transform with
  | none => exact .pure _
  | some t =>
    refine (Mirrors.transform o t _ _).bind fun outcome => ?_
    cases outcome with
    | error err => exact .pure _
    | ok x =>
      by_cases hstatus : Response.validStatus x.response.status = true
      · simp only [if_pos hstatus]
        exact .pure _
      · simp only [if_neg hstatus]
        exact .pure _

/-- Writing down the calls changes neither the answer nor the world. -/
theorem answer_traced (e : Engine) (o : Outside σ) (r : Request) :
    Mirrors (e.answer o.traced r) (e.answer o r) := by
  unfold answer
  cases e.mode with
  | virtualize => exact (virtualize_traced e o r).bind fun _ => .pure _
  | capture => exact (capture_traced e o r).bind fun _ => .pure _
  | simulate => exact (simulate_traced e o r).bind fun _ => .pure _
  | modify => exact (modify_traced e o r).bind fun _ => .pure _
  | synthesize => exact (synthesize_traced e o r).bind fun _ => .pure _

/-! ### Courses -/

/-- The calls by which a capture prepares a request, and the request that it forwards then. -/
inductive Prepares (e : Engine) (r : Request) : List Call → Request → Prop
  | plain (hplain : e.transform = none) : Prepares e r [] r
  | transformed {t : Transform} (ht : e.transform = some t) (x : Exchange) :
    Prepares e r [.transformed t { request := r } r.fingerprint (.ok x)] x.request

/-- The ways in which a request can be answered: the calls, the response and the changes of
the records. -/
inductive Course (e : Engine) (r : Request) : List Call → Response → List Change → Prop
  | virtualized (hmode : e.mode = .virtualize) (answer : Response) :
    Course e r [.forwarded r (.ok answer)] answer []
  | notVirtualized (hmode : e.mode = .virtualize) (err : ProxyError) :
    Course e r [.forwarded r (.error err)]
      (errorResponse 502
        "There was an error when forwarding the request to the intended destination" err.message)
      []
  | notPrepared (hmode : e.mode = .capture) {t : Transform} (ht : e.transform = some t)
    (err : TransformError) :
    Course e r [.transformed t { request := r } r.fingerprint (.error err)]
      (errorResponse 503 captureFailed err.message) []
  | notCaptured (hmode : e.mode = .capture) {calls : List Call} {outgoing : Request}
    (hprepares : Prepares e r calls outgoing) (err : ProxyError) :
    Course e r (calls ++ [.forwarded outgoing (.error err)])
      (errorResponse 503 captureFailed err.message) []
  | captured (hmode : e.mode = .capture) {calls : List Call} {outgoing : Request}
    (hprepares : Prepares e r calls outgoing) (answer : Response) :
    Course e r (calls ++ [.forwarded outgoing (.ok answer)]) answer
      [.stored (recording r answer)]
  | missing (hmode : e.mode = .simulate) {err : ProxyError} (herr : e.lookup r.key = .error err)
    (hmissing : err.isNotFound = true) :
    Course e r []
      (errorResponse 412 "Could not find recorded request, please record it first!" err.message) []
  | unreadable (hmode : e.mode = .simulate) {err : ProxyError}
    (herr : e.lookup r.key = .error err) (hmissing : ¬err.isNotFound = true) :
    Course e r [] (errorResponse 500 "Failed to simulate" err.message) []
  | replayed (hmode : e.mode = .simulate) {found : Exchange} (hfound : e.lookup r.key = .ok found)
    (hplain : e.transform = none) : Course e r [] found.response []
  | notSimulated (hmode : e.mode = .simulate) {found : Exchange}
    (hfound : e.lookup r.key = .ok found) {t : Transform} (ht : e.transform = some t)
    (err : TransformError) :
    Course e r
      [.transformed t { request := r, response := found.response } r.fingerprint (.error err)]
      (errorResponse 503 "Failed to simulate" err.message) []
  | simulated (hmode : e.mode = .simulate) {found : Exchange}
    (hfound : e.lookup r.key = .ok found) {t : Transform} (ht : e.transform = some t)
    (x : Exchange) :
    Course e r [.transformed t { request := r, response := found.response } r.fingerprint (.ok x)]
      x.response []
  | cannotModify (hmode : e.mode = .modify) (hplain : e.transform = none) :
    Course e r []
      (errorResponse 503 (modifyFailed "none") (ProxyError.missingTransform .modify).message) []
  | notModified (hmode : e.mode = .modify) {t : Transform} (ht : e.transform = some t)
    (err : TransformError) :
    Course e r [.transformed t { request := r } r.fingerprint (.error err)]
      (errorResponse 503 (modifyFailed t.definition.describe) err.message) []
  | notAnswered (hmode : e.mode = .modify) {t : Transform} (ht : e.transform = some t)
    (x : Exchange) (err : ProxyError) :
    Course e r
      [.transformed t { request := r } r.fingerprint (.ok x), .forwarded x.request (.error err)]
      (errorResponse 503 (modifyFailed t.definition.describe) err.message) []
  | notModifiedBack (hmode : e.mode = .modify) {t : Transform} (ht : e.transform = some t)
    (x : Exchange) (answer : Response) (err : TransformError) :
    Course e r
      [.transformed t { request := r } r.fingerprint (.ok x), .forwarded x.request (.ok answer),
        .transformed t { request := r, response := answer } r.fingerprint (.error err)]
      (errorResponse 503 (modifyFailed t.definition.describe) err.message) []
  | modified (hmode : e.mode = .modify) {t : Transform} (ht : e.transform = some t)
    (x : Exchange) (answer : Response) (y : Exchange) :
    Course e r
      [.transformed t { request := r } r.fingerprint (.ok x), .forwarded x.request (.ok answer),
        .transformed t { request := r, response := answer } r.fingerprint (.ok y)]
      y.response []
  | cannotSynthesize (hmode : e.mode = .synthesize) (hplain : e.transform = none) :
    Course e r []
      (errorResponse 503 synthesizeFailed (ProxyError.missingTransform .synthesize).message) []
  | notSynthesized (hmode : e.mode = .synthesize) {t : Transform} (ht : e.transform = some t)
    (err : TransformError) :
    Course e r [.transformed t { request := r } r.fingerprint (.error err)]
      (errorResponse 503 synthesizeFailed err.message) []
  | invalid (hmode : e.mode = .synthesize) {t : Transform} (ht : e.transform = some t)
    (x : Exchange) (hstatus : ¬Response.validStatus x.response.status = true) :
    Course e r [.transformed t { request := r } r.fingerprint (.ok x)]
      (errorResponse 503 synthesizeFailed
        (ProxyError.http ("invalid status code " ++ toString x.response.status.toNat)).message) []
  | synthesized (hmode : e.mode = .synthesize) {t : Transform} (ht : e.transform = some t)
    (x : Exchange) (hstatus : Response.validStatus x.response.status = true) :
    Course e r [.transformed t { request := r } r.fingerprint (.ok x)] x.response []

section Courses

variable {e : Engine} (o : Outside σ) (r : Request) (w : σ)

theorem virtualize_course (hmode : e.mode = .virtualize) :
    Course e r (e.virtualize o.traced r (w, [])).2.2 (e.virtualize o.traced r (w, [])).1 [] := by
  simp only [virtualize, bind_apply, Outside.traced]
  cases (o.forward e.forwarding r w).1 with
  | error err => exact .notVirtualized hmode err
  | ok answer => exact .virtualized hmode answer

theorem capture_course (hmode : e.mode = .capture) :
    Course e r (e.capture o.traced r (w, [])).2.2 (e.capture o.traced r (w, [])).1.1
      (recordings r (e.captured o.traced r (w, [])).1) := by
  simp only [capture, captured, prepared]
  -- what the transform and the destination answer tells the course
  cases htransform : e.transform with
  | none =>
    simp only [bind_apply, pure_apply, Outside.traced]
    cases (o.forward e.forwarding r w).1 with
    | error err => exact .notCaptured hmode (.plain htransform) err
    | ok answer => exact .captured hmode (.plain htransform) answer
  | some t =>
    simp only [bind_apply, Outside.traced]
    cases (o.transform t { request := r } r.fingerprint w).1 with
    | error err => exact .notPrepared hmode htransform err
    | ok x =>
      simp only [bind_apply, pure_apply]
      cases (o.forward e.forwarding x.request
          (o.transform t { request := r } r.fingerprint w).2).1 with
      | error err => exact .notCaptured hmode (.transformed htransform x) err
      | ok answer => exact .captured hmode (.transformed htransform x) answer

theorem simulate_course (hmode : e.mode = .simulate) :
    Course e r (e.simulate o.traced r (w, [])).2.2 (e.simulate o.traced r (w, [])).1 [] := by
  simp only [simulate]
  -- what is found decides first, and the transform is asked only behind it
  cases hlookup : e.lookup r.key with
  | error err =>
    by_cases hmissing : err.isNotFound = true
    · simp only [if_pos hmissing]
      exact .missing hmode hlookup hmissing
    · simp only [if_neg hmissing]
      exact .unreadable hmode hlookup hmissing
  | ok found =>
    cases htransform : e.transform with
    | none => exact .replayed hmode hlookup htransform
    | some t =>
      simp only [bind_apply, Outside.traced]
      cases (o.transform t { request := r, response := found.response } r.fingerprint w).1 with
      | error err => exact .notSimulated hmode hlookup htransform err
      | ok x => exact .simulated hmode hlookup htransform x

theorem modify_course (hmode : e.mode = .modify) :
    Course e r (e.modify o.traced r (w, [])).2.2 (e.modify o.traced r (w, [])).1 [] := by
  simp only [modify]
  cases htransform : e.transform with
  | none => exact .cannotModify hmode htransform
  | some t =>
    simp only [bind_apply, Outside.traced]
    cases (o.transform t { request := r } r.fingerprint w).1 with
    | error err => exact .notModified hmode htransform err
    | ok x =>
      -- only the outcomes matter, not the worlds between the calls
      simp only [bind_apply]
      generalize (o.transform t { request := r } r.fingerprint w).2 = w₁
      cases (o.forward e.forwarding x.request w₁).1 with
      | error err => exact .notAnswered hmode htransform x err
      | ok answer =>
        simp only [bind_apply]
        generalize (o.forward e.forwarding x.request w₁).2 = w₂
        cases (o.transform t { request := r, response := answer } r.fingerprint w₂).1 with
        | error err => exact .notModifiedBack hmode htransform x answer err
        | ok y => exact .modified hmode htransform x answer y

theorem synthesize_course (hmode : e.mode = .synthesize) :
    Course e r (e.synthesize o.traced r (w, [])).2.2 (e.synthesize o.traced r (w, [])).1 [] := by
  simp only [synthesize]
  cases htransform : e.transform with
  | none => exact .cannotSynthesize hmode htransform
  | some t =>
    simp only [bind_apply, Outside.traced]
    cases (o.transform t { request := r } r.fingerprint w).1 with
    | error err => exact .notSynthesized hmode htransform err
    | ok x =>
      by_cases hstatus : Response.validStatus x.response.status = true
      · simp only [if_pos hstatus]
        exact .synthesized hmode htransform x hstatus
      · simp only [if_neg hstatus]
        exact .invalid hmode htransform x hstatus

end Courses

/-- The calls that answering a request makes. -/
def calls (e : Engine) (o : Outside σ) (r : Request) (w : σ) : List Call :=
  (e.answer o.traced r (w, [])).2.2

/-- **Every answer takes a course**, whatever the calls bring. -/
theorem answer_course (e : Engine) (o : Outside σ) (r : Request) (w : σ) :
    Course e r (e.calls o r w) (e.answer o r w).1.1 (e.recorded o r w) := by
  rw [← (answer_traced e o r (w, [])).1]
  -- what goes around a mode makes no call: it moves a counter
  cases hmode : e.mode with
  | virtualize =>
    simp only [calls, answer, recorded, hmode, bind_apply, pure_apply]
    exact virtualize_course o r w hmode
  | capture =>
    simp only [calls, answer, recorded, hmode, bind_apply, pure_apply]
    rw [← (captured_traced e o r (w, [])).1]
    exact capture_course o r w hmode
  | simulate =>
    simp only [calls, answer, recorded, hmode, bind_apply, pure_apply]
    exact simulate_course o r w hmode
  | modify =>
    simp only [calls, answer, recorded, hmode, bind_apply, pure_apply]
    exact modify_course o r w hmode
  | synthesize =>
    simp only [calls, answer, recorded, hmode, bind_apply, pure_apply]
    exact synthesize_course o r w hmode

/-! ### Containment -/

/-- How a simulation answers, by what is held under the fingerprint of the request. -/
def Simulated (e : Engine) (r : Request) (calls : List Call) (response : Response) : Prop :=
  match e.requests.backing.get? r.key with
  | none => response.status = 412 ∧ calls = []
  | some value =>
    match Exchange.decode value with
    | .error _ => response.status = 500 ∧ calls = []
    | .ok found =>
      match e.transform with
      | none => response = found.response ∧ calls = []
      | some t =>
        ∃ outcome,
          calls = [.transformed t { request := r, response := found.response } r.fingerprint
            outcome] ∧
          match outcome with
          | .ok x => response = x.response
          | .error _ => response.status = 503

theorem Simulated.status_of_unreadable {e : Engine} {r : Request} {calls : List Call}
    {response : Response} (h : Simulated e r calls response) {value : Bytes} {err : EncodingError}
    (hget : e.requests.backing.get? r.key = some value)
    (hdecode : Exchange.decode value = .error err) : response.status = 500 := by
  simp only [Simulated, hget, hdecode] at h
  exact h.1

/-- What an answer may do. Here `calls` are the calls that it makes, and `e'` is the engine that
it leaves. -/
structure Contained (e : Engine) (r : Request) (calls : List Call) (response : Response)
    (e' : Engine) : Prop where
  /-- A destination is called once at most, -/
  forwards : calls.countP Call.isForward ≤ 1
  /-- and not at all by a simulation or a synthesis. -/
  silent : e.mode = .simulate ∨ e.mode = .synthesize → calls.countP Call.isForward = 0
  /-- Nothing is touched but the records and a counter. -/
  frame : e' = { e with requests := e'.requests, counters := e.counters.increment e.mode }
  /-- A capture that is answered returns the answer and records it with the request as it came,
  whatever request was forwarded. -/
  captured : ∀ outgoing answer, e.mode = .capture → .forwarded outgoing (.ok answer) ∈ calls →
    response = answer ∧
      ∀ key, e'.requests.backing.get? key =
        if r.key = key then
          some (Exchange.encode { request := r, response := answer, kind := some "recording" })
        else e.requests.backing.get? key
  /-- Nothing else changes the records. -/
  unchanged : ¬(e.mode = .capture ∧ ∃ outgoing answer, .forwarded outgoing (.ok answer) ∈ calls) →
    e'.requests = e.requests
  /-- When a call fails, the status tells so. -/
  failed : ∀ call ∈ calls, call.Failed →
    response.status = if e.mode = .virtualize then 502 else 503
  /-- A transform that makes up a status that HTTP cannot carry has failed, too. -/
  invalid : ∀ t x id y, e.mode = .synthesize → .transformed t x id (.ok y) ∈ calls →
    ¬(100 ≤ y.response.status ∧ y.response.status ≤ 999) → response.status = 503
  /-- So has one that is not there. -/
  unequipped : e.mode = .modify ∨ e.mode = .synthesize → e.transform = none →
    response.status = 503
  simulated : e.mode = .simulate → Simulated e r calls response

@[simp] theorem status_errorResponse (status : UInt16) (message error : String) :
    (errorResponse status message error).status = status := rfl

/-- What prepares a request forwards nothing, and none of it failed. -/
theorem Prepares.not_forward_not_failed {e : Engine} {r outgoing : Request} {calls : List Call}
    (h : Prepares e r calls outgoing) {call : Call} (hcall : call ∈ calls) :
    ¬call.isForward = true ∧ ¬call.Failed := by
  cases h with
  | plain => cases hcall
  | transformed ht x =>
    rw [List.mem_singleton.1 hcall]
    simp [Call.isForward, Call.Failed]

section Courses

variable {e : Engine} {r : Request} {calls : List Call} {response : Response}
  {changes : List Change}

theorem Course.forwards (h : Course e r calls response changes) :
    calls.countP Call.isForward ≤ 1 ∧
      (e.mode = .simulate ∨ e.mode = .synthesize → calls.countP Call.isForward = 0) := by
  -- a capture may call a transform before the destination; all other calls are written out
  have hnone : ∀ {outgoing : Request} {calls : List Call}, Prepares e r calls outgoing →
      calls.countP Call.isForward = 0 := by
    intro outgoing calls hprepares
    rw [List.countP_eq_zero]
    intro call hcall
    exact (hprepares.not_forward_not_failed hcall).1
  cases h with
  | notCaptured hmode hprepares err => simp [hmode, hnone hprepares, Call.isForward]
  | captured hmode hprepares answer => simp [hmode, hnone hprepares, Call.isForward]
  | _ => simp [*, List.countP_cons, Call.isForward]

/-- What a capture records is the answer; there is nothing else to record. -/
theorem Course.records (h : Course e r calls response changes) :
    (∀ outgoing answer, e.mode = .capture → .forwarded outgoing (.ok answer) ∈ calls →
        response = answer ∧ changes = [.stored (recording r answer)]) ∧
      (¬(e.mode = .capture ∧ ∃ outgoing answer, .forwarded outgoing (.ok answer) ∈ calls) →
        changes = []) := by
  cases h with
  | captured hmode hprepares =>
    refine ⟨fun outgoing answer _ hcall => ?_, fun hnot => ?_⟩
    · -- the only call to a destination is the last one
      rcases List.mem_append.1 hcall with hcall | hcall
      · exact absurd rfl (hprepares.not_forward_not_failed hcall).1
      · obtain ⟨-, rfl⟩ : outgoing = _ ∧ answer = response := by simpa using hcall
        exact ⟨rfl, rfl⟩
    · exact absurd ⟨hmode, _, response, List.mem_append_right _ (List.mem_singleton_self _)⟩ hnot
  | notCaptured hmode hprepares err =>
    -- the destination was called but did not answer
    refine ⟨fun outgoing answer _ hcall => ?_, fun _ => rfl⟩
    rcases List.mem_append.1 hcall with hcall | hcall
    · exact absurd rfl (hprepares.not_forward_not_failed hcall).1
    · simp at hcall
  | _ => simp [*]

theorem Course.status_of_failed (h : Course e r calls response changes) :
    ∀ call ∈ calls, call.Failed → response.status = if e.mode = .virtualize then 502 else 503 := by
  cases h with
  | captured hmode hprepares =>
    -- in this course no call failed
    intro call hcall hfailed
    rcases List.mem_append.1 hcall with hcall | hcall
    · exact absurd hfailed (hprepares.not_forward_not_failed hcall).2
    · rw [List.mem_singleton.1 hcall] at hfailed
      simp [Call.Failed] at hfailed
  | notCaptured hmode hprepares err => simp [hmode]
  | _ => simp [*, Call.Failed]

theorem Course.status_of_invalid (h : Course e r calls response changes)
    (hmode : e.mode = .synthesize) :
    ∀ t x id y, .transformed t x id (.ok y) ∈ calls →
      ¬(100 ≤ y.response.status ∧ y.response.status ≤ 999) → response.status = 503 := by
  -- a status that cannot be carried is found in no course but the one that refuses it
  cases h with
  | synthesized _ ht y hstatus =>
    intro t x id y' hcall hinvalid
    obtain ⟨-, -, -, rfl⟩ : t = _ ∧ x = _ ∧ id = _ ∧ y' = y := by simpa using hcall
    exact absurd (by simpa [Response.validStatus] using hstatus) hinvalid
  | cannotSynthesize | notSynthesized | invalid => exact fun _ _ _ _ _ _ => rfl
  | _ hother => exact absurd (hmode.symm.trans hother) nofun

theorem Course.status_of_unequipped (h : Course e r calls response changes)
    (hmode : e.mode = .modify ∨ e.mode = .synthesize) (hplain : e.transform = none) :
    response.status = 503 := by
  have hnone : ∀ {t : Transform}, e.transform = some t → response.status = 503 := fun ht =>
    absurd (hplain.symm.trans ht) nofun
  cases h with
  | cannotModify | cannotSynthesize => rfl
  -- the other courses of these modes begin with a transform
  | notModified _ ht | notAnswered _ ht | notModifiedBack _ ht | modified _ ht
  | notSynthesized _ ht | invalid _ ht | synthesized _ ht => exact hnone ht
  | _ hother => exact absurd hother (by rcases hmode with hmode | hmode <;> simp [hmode])

theorem Course.simulates (h : Course e r calls response changes) (hsound : e.requests.Sound)
    (hmode : e.mode = .simulate) : Simulated e r calls response := by
  unfold Simulated
  -- only the courses of a simulation are left, and each says what was looked up
  cases h with
  | missing _ herr hmissing =>
    have hget := not_held_of_lookup hsound herr
    rw [if_pos hmissing] at hget
    simp only [hget]
    exact ⟨rfl, trivial⟩
  | unreadable _ herr hmissing =>
    have hheld := not_held_of_lookup hsound herr
    rw [if_neg hmissing] at hheld
    obtain ⟨value, reason, hget, hdecode⟩ := hheld
    simp only [hget, hdecode]
    exact ⟨rfl, trivial⟩
  | replayed _ hfound hplain =>
    obtain ⟨value, hget, hdecode⟩ := held_of_lookup hsound hfound
    simp only [hget, hdecode, hplain]
    exact ⟨trivial, trivial⟩
  | notSimulated _ hfound ht err =>
    obtain ⟨value, hget, hdecode⟩ := held_of_lookup hsound hfound
    simp only [hget, hdecode, ht]
    exact ⟨.error err, rfl, rfl⟩
  | simulated _ hfound ht x =>
    obtain ⟨value, hget, hdecode⟩ := held_of_lookup hsound hfound
    simp only [hget, hdecode, ht]
    exact ⟨.ok x, rfl, rfl⟩
  | _ hother => exact absurd (hmode.symm.trans hother) nofun

end Courses

/-- A destination is sent one request at most, whatever becomes of it. -/
theorem forward_sends_le_one (settings : ForwardSettings) (s : Surroundings σ) (r : Request)
    (w : σ) (log : List Outgoing) :
    ∃ sent, sent.length ≤ 1 ∧ (Forward.forward settings s.logged r (w, log)).2.2 = sent ++ log := by
  rw [Forward.log_forward]
  cases Forward.outgoing settings r with
  | error err => exact ⟨[], by simp, rfl⟩
  | ok out => exact ⟨[out], by simp, rfl⟩

/-- **Effects and failures of the modes.** Whatever transforms and destinations do, an answer
is contained: the modes call no more than they should, only an answered capture changes the
records, and each failure has its status. So it is with transforms and destinations in any
surroundings, where a call to a destination sends one request at most. -/
theorem answer_contained {e : Engine} (hsound : e.requests.Sound) (r : Request) :
    (∀ {σ : Type} (o : Outside σ) (w : σ),
        Contained e r (e.calls o r w) (e.answer o r w).1.1 (e.answer o r w).1.2) ∧
      ∀ {σ : Type} (s : Surroundings σ) (w : σ),
        Contained e r (e.calls s.outside r w) (e.process s r w).1.1 (e.process s r w).1.2 ∧
          ∀ outgoing log, ∃ sent, sent.length ≤ 1 ∧
            (Forward.forward e.forwarding s.logged outgoing (w, log)).2.2 = sent ++ log := by
  have key : ∀ {σ : Type} (o : Outside σ) (w : σ),
      Contained e r (e.calls o r w) (e.answer o r w).1.1 (e.answer o r w).1.2 := by
    intro σ o w
    -- from here on the course stands for the run: calls, response and changes are any that it
    -- allows
    have hcourse := answer_course e o r w
    have hengine := answer_engine e o r w
    generalize e.calls o r w = calls at hcourse
    generalize (e.answer o r w).1.1 = response at hcourse
    generalize (e.answer o r w).1.2 = e' at hengine
    generalize e.recorded o r w = changes at hcourse hengine
    subst hengine
    obtain ⟨hcaptured, hunchanged⟩ := hcourse.records
    refine
      { forwards := hcourse.forwards.1
        silent := hcourse.forwards.2
        frame := rfl
        captured := fun outgoing answer hmode hcall => ?_
        unchanged := fun hnot => ?_
        failed := hcourse.status_of_failed
        invalid := fun t x id y hmode => hcourse.status_of_invalid hmode t x id y
        unequipped := hcourse.status_of_unequipped
        simulated := hcourse.simulates hsound }
    · obtain ⟨rfl, rfl⟩ := hcaptured outgoing answer hmode hcall
      refine ⟨rfl, fun key => ?_⟩
      simp only [List.foldl_cons, List.foldl_nil]
      rw [Change.apply_of_sound hsound, Change.onBacking, Backing.get?_set]
      rfl
    · rw [hunchanged hnot]
      rfl
  refine ⟨key, fun s w => ⟨key s.outside w, fun outgoing log => ?_⟩⟩
  exact forward_sends_le_one e.forwarding s outgoing w log

/-- An engine that simulates, with a value under the fingerprint of the order that is no
exchange. -/
def garbled : Engine :=
  { recorder with
    mode := .simulate
    requests := { backing := .memory (Std.ExtTreeMap.insert ∅ order.key [0xFF]) } }

/-- A value that cannot be decoded is answered with the status 500, without any call. -/
theorem answer_contained_garbled :
    garbled.requests.Sound ∧
      Contained garbled order (garbled.calls answering.outside order ())
        (garbled.process answering order ()).1.1 (garbled.process answering order ()).1.2 ∧
      (garbled.process answering order ()).1.1.status = 500 := by
  have hsound : garbled.requests.Sound := fun _ => rfl
  have hcontained := ((answer_contained hsound order).2 answering ()).1
  have hsimulated := hcontained.simulated rfl
  have hget : garbled.requests.backing.get? order.key = some [0xFF] :=
    Std.ExtTreeMap.getElem?_insert_self
  have hnone : (Exchange.decode [0xFF]).toOption.isNone = true := by decide +kernel
  cases hdecode : Exchange.decode [0xFF] with
  | ok x => simp [hdecode, Except.toOption] at hnone
  | error err => exact ⟨hsound, hcontained, hsimulated.status_of_unreadable hget hdecode⟩

end Engine

end ReplayProxy
