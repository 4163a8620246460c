import ReplayProxy.Proofs.Engine.Changes
import ReplayProxy.Proofs.Envelope

/-!
# What answering a request changes

Of the five modes only a capture touches the records, and only when it is answered.
`Engine.captured` is the response that it records then, and `Engine.recorded` puts it as a list
of changes for any mode.

Main statements:

* `Engine.answer_engine`: answering a request leaves an engine with these changes applied to
  its records and one counter moved, and with everything else as it was.
* `Engine.canonical_of_captured`: a response that is recorded has canonical headers, since it
  came from a destination.
-/

namespace ReplayProxy

/-! ### Answers of a destination -/

/-- The headers of a response that was forwarded are canonical. -/
theorem Forward.canonical_of_forward {settings : ForwardSettings} {s : Surroundings σ}
    {r : Request} {w : σ} {response : Response}
    (h : (Forward.forward settings s r w).1 = .ok response) : response.headers.Canonical := by
  unfold Forward.forward at h
  cases hout : Forward.outgoing settings r with
  | error err =>
    rw [hout] at h
    cases h
  | ok out =>
    -- of all deliveries, only a reply with a whole body brings a response
    simp only [hout, bind_apply] at h
    cases hsend : (s.send out w).1 with
    | failed reason => simp [hsend, pure_apply] at h
    | overran => simp [hsend, pure_apply] at h
    | reply incoming =>
      simp only [hsend] at h
      cases hbody : incoming.body with
      | error reason => simp [hbody, pure_apply] at h
      | ok body =>
        simp only [hbody, pure_apply, Except.ok.injEq] at h
        subst h
        exact ((Headers.canonical_ofPairs _).erase _).add _ _

namespace Engine

/-! ### Looking up -/

/-- Looking up finds what the cache holds, if it can be decoded. -/
theorem lookup_of_sound {e : Engine} (h : e.requests.Sound) (key : Bytes) :
    e.lookup key =
      match e.requests.backing.get? key with
      | none => .error (.storage (.notFound key))
      | some value =>
        match Exchange.decode value with
        | .ok x => .ok x
        | .error err => .error (.encoding err) := by
  rw [lookup, Cache.get_of_sound h]
  cases e.requests.backing.get? key <;> rfl

/-- What is found is held. -/
theorem held_of_lookup {e : Engine} (h : e.requests.Sound) {key : Bytes} {x : Exchange}
    (hfound : e.lookup key = .ok x) :
    ∃ value, e.requests.backing.get? key = some value ∧ Exchange.decode value = .ok x := by
  rw [lookup_of_sound h] at hfound
  cases hget : e.requests.backing.get? key with
  | none => simp [hget] at hfound
  | some value =>
    cases hdecode : Exchange.decode value with
    | error err => simp [hget, hdecode] at hfound
    | ok y =>
      simp only [hget, hdecode, Except.ok.injEq] at hfound
      exact ⟨value, rfl, hfound ▸ hdecode⟩

/-- What is not found is not held, or cannot be decoded; the error tells which. -/
theorem not_held_of_lookup {e : Engine} (h : e.requests.Sound) {key : Bytes} {err : ProxyError}
    (hfailed : e.lookup key = .error err) :
    if err.isNotFound then e.requests.backing.get? key = none
    else ∃ value reason, e.requests.backing.get? key = some value ∧
      Exchange.decode value = .error reason := by
  rw [lookup_of_sound h] at hfailed
  -- the error of the cache says that nothing is there, that of the codec does not
  cases hget : e.requests.backing.get? key with
  | none =>
    simp only [hget, Except.error.injEq] at hfailed
    subst hfailed
    rfl
  | some value =>
    cases hdecode : Exchange.decode value with
    | error reason =>
      simp only [hget, hdecode, Except.error.injEq] at hfailed
      subst hfailed
      exact ⟨value, reason, rfl, hdecode⟩
    | ok y => simp [hget, hdecode] at hfailed

/-- The engine in another mode. -/
def inMode (e : Engine) (m : Mode) : Engine := { e with mode := m }

/-- What a simulation answers from the records alone. -/
def replayed (e : Engine) (r : Request) : Response :=
  match e.lookup r.key with
  | .ok found => found.response
  | .error err =>
    if err.isNotFound then
      errorResponse 412 "Could not find recorded request, please record it first!" err.message
    else errorResponse 500 "Failed to simulate" err.message

/-! ### Capturing -/

/-- The exchange that is recorded for a request and the response to it. -/
def recording (r : Request) (response : Response) : Exchange where
  request := r
  response := response
  kind := some recordingKind

/-- The response that is recorded when a request is captured, if there is one. -/
def captured (e : Engine) (o : Outside σ) (r : Request) : StateM σ (Option Response) := do
  match ← e.prepared o r with
  | .error _ => return none
  | .ok outgoing =>
    match ← o.forward e.forwarding outgoing with
    | .error _ => return none
    | .ok response => return some response

/-- The changes that come of a capture. -/
def recordings (r : Request) : Option Response → List Change
  | some response => [.stored (recording r response)]
  | none => []

/-- The changes that come of a request in the active mode. -/
def recorded (e : Engine) (o : Outside σ) (r : Request) (w : σ) : List Change :=
  match e.mode with
  | .capture => recordings r (e.captured o r w).1
  | _ => []

theorem capture_engine (e : Engine) (o : Outside σ) (r : Request) (w : σ) :
    (e.capture o r w).1.2 =
      { e with
        requests := (recordings r (e.captured o r w).1).foldl Change.apply e.requests } := by
  -- both take the same two calls and stop at the same failures
  simp only [capture, captured, bind_apply]
  cases (e.prepared o r w).1 with
  | error err => rfl
  | ok outgoing =>
    simp only [bind_apply]
    cases (o.forward e.forwarding outgoing (e.prepared o r w).2).1 <;> rfl

/-- Answering a request changes nothing but the records, as `recorded` says, and a counter. -/
theorem answer_engine (e : Engine) (o : Outside σ) (r : Request) (w : σ) :
    (e.answer o r w).1.2 =
      { e with
        requests := (e.recorded o r w).foldl Change.apply e.requests
        counters := e.counters.increment e.mode } := by
  cases hmode : e.mode with
  -- the other modes give back the engine that they were given
  | capture =>
    simp only [answer, recorded, hmode, bind_apply, pure_apply]
    rw [capture_engine, hmode]
  | _ => simp only [answer, recorded, hmode, bind_apply, pure_apply, List.foldl_nil]

/-- Only what a destination answered is captured. -/
theorem canonical_of_captured {e : Engine} {s : Surroundings σ} {r : Request} {w : σ}
    {response : Response} (h : (e.captured s.outside r w).1 = some response) :
    response.headers.Canonical := by
  simp only [captured, bind_apply] at h
  cases hprepared : (e.prepared s.outside r w).1 with
  | error err => simp [hprepared, pure_apply] at h
  | ok outgoing =>
    simp only [hprepared, bind_apply] at h
    cases hforward : (s.outside.forward e.forwarding outgoing (e.prepared s.outside r w).2).1 with
    | error err => simp [hforward, pure_apply] at h
    | ok answer =>
      simp only [hforward, pure_apply, Option.some.injEq] at h
      subst h
      exact Forward.canonical_of_forward hforward

/-! ### A small world -/

/-- A world in which every destination answers the same. -/
def answering : Surroundings Unit where
  start call := pure (.notStarted call.program)
  send _ := pure (.reply
    { status := 200, headers := [("Server", Bytes.ofText "x")], body := .ok (Bytes.ofText "ok") })

/-- A request whose headers were built by adding values. -/
def order : Request where
  method := "POST"
  destination := "Example.com"
  path := "/orders"
  body := Bytes.ofText "[2]"
  headers := .ofPairs [("content-type", "application/json"), ("Accept", "*/*")]

/-- An engine that captures and has recorded nothing. -/
def recorder : Engine where
  mode := .capture
  destination := "."
  pattern := .empty
  transform := none
  forwarding := {}
  requests := .inMemory
  metadata := .inMemory
  counters := .empty

end Engine

end ReplayProxy
