import ReplayProxy.Proofs.Engine.Neutral

/-!
# Where responses come from

A response of an engine is stored, forwarded, made by a transform, or says what failed. In all four
cases the names of its headers are canonical: what is stored or given back by a transform was
decoded, and what is forwarded or says what failed was built header by header. The modes put no
headers together themselves, so each of them is followed call by call with one property of outcomes
in hand (`Engine.Yields`).

Main statement:

* `Engine.canonical_of_process`: whatever the world does, an engine answers with canonical headers.
-/

namespace ReplayProxy

/-! ### Transforms -/

namespace Transform

/-- What a transform makes of an exchange has canonical headers: it was decoded, or it is the
exchange as it was. -/
theorem canonical_of_result {x y : Exchange} {output : Bytes}
    (hx : x.response.headers.Canonical) (h : result x output = .ok y) :
    y.response.headers.Canonical := by
  -- blank output leaves the exchange, and any other is read as a payload
  unfold result at h
  by_cases hblank : output.all Blank.isAsciiBlank = true
  · rw [if_pos hblank] at h
    cases h
    exact hx
  · rw [if_neg hblank] at h
    cases hparse : Payload.parse output with
    | error err => simp [hparse] at h
    | ok p =>
      cases hexchange : p.exchange with
      | error err => simp [hparse, hexchange] at h
      | ok z =>
        obtain rfl : z = y := by simpa [hparse, hexchange] using h
        exact (ExchangeForm.canonical_of_exchange hexchange).response

theorem canonical_of_apply {σ : Type} {t : Transform} {s : Surroundings σ} {x y : Exchange}
    {id : String} {w : σ} (hx : x.response.headers.Canonical)
    (h : (t.apply s x id w).1 = .ok y) : y.response.headers.Canonical := by
  rw [apply_apply] at h
  obtain ⟨output, -, hresult⟩ := bind_eq_ok_iff.1 h
  exact canonical_of_result hx hresult

end Transform

namespace Engine

variable {σ α β : Type}

/-! ### Outcomes -/

/-- Whatever the world is, what the computation gives has the property. -/
def Yields (p : α → Prop) (m : StateM σ α) : Prop := ∀ w, p (m w).1

theorem Yields.pure {p : α → Prop} {a : α} (h : p a) :
    Yields p (Pure.pure a : StateM σ α) := fun _ => h

theorem Yields.bind {p : α → Prop} {q : β → Prop} {m : StateM σ α} {f : α → StateM σ β}
    (h : Yields p m) (hf : ∀ a, p a → Yields q (f a)) : Yields q (m >>= f) :=
  fun w => hf _ (h w) _

/-- The response has canonical headers. -/
def Proper (r : Response) : Prop := r.headers.Canonical

theorem proper_errorResponse (status : UInt16) (message error : String) :
    Proper (errorResponse status message error) :=
  Headers.canonical_empty.add _ _

/-- What comes of forwarding, if anything does, has canonical headers. -/
theorem yields_forward (s : Surroundings σ) (settings : ForwardSettings) (r : Request) :
    Yields (fun outcome => ∀ response, outcome = .ok response → Proper response)
      (s.outside.forward settings r) := by
  intro w response h
  exact Forward.canonical_of_forward h

/-- So does what a transform makes of an exchange that had them. -/
theorem yields_transform (s : Surroundings σ) (t : Transform) (x : Exchange) (id : String)
    (hx : Proper x.response) :
    Yields (fun outcome => ∀ y, outcome = .ok y → Proper y.response)
      (s.outside.transform t x id) := by
  intro w y h
  exact Transform.canonical_of_apply hx h

/-- Before there is a response, a transform is given an empty one. -/
theorem proper_empty : Proper {} := Headers.canonical_empty

section Modes

variable (e : Engine) (s : Surroundings σ) (r : Request)

theorem yields_virtualize : Yields Proper (e.virtualize s.outside r) := by
  refine (yields_forward s e.forwarding r).bind ?_
  intro outcome houtcome
  cases outcome with
  | ok response => exact .pure (houtcome response rfl)
  | error err => exact .pure (proper_errorResponse _ _ _)

theorem yields_capture :
    Yields (fun answer => Proper answer.1) (e.capture s.outside r) := by
  -- the request that is forwarded does not matter, nor does what prepared it
  refine Yields.bind (p := fun _ => True) (fun _ => trivial) ?_
  intro prepared _
  cases prepared with
  | error err => exact .pure (proper_errorResponse _ _ _)
  | ok outgoing =>
    refine (yields_forward s e.forwarding outgoing).bind ?_
    intro outcome houtcome
    cases outcome with
    | ok response => exact .pure (houtcome response rfl)
    | error err => exact .pure (proper_errorResponse _ _ _)

theorem yields_simulate : Yields Proper (e.simulate s.outside r) := by
  unfold simulate
  -- a response is fabricated, comes out of the store, or is what the transform makes of it
  cases hlookup : e.lookup r.key with
  | error err =>
    by_cases hmissing : err.isNotFound = true
    · simp only [if_pos hmissing]
      exact .pure (proper_errorResponse _ _ _)
    · simp only [if_neg hmissing]
      exact .pure (proper_errorResponse _ _ _)
  | ok found =>
    have hfound : Proper found.response := (canonical_of_lookup hlookup).response
    cases e.transform with
    | none => exact .pure hfound
    | some t =>
      refine (yields_transform s t { request := r, response := found.response } _ hfound).bind ?_
      intro outcome houtcome
      cases outcome with
      | ok y => exact .pure (houtcome y rfl)
      | error err => exact .pure (proper_errorResponse _ _ _)

theorem yields_modify : Yields Proper (e.modify s.outside r) := by
  unfold modify
  cases e.transform with
  | none => exact .pure (proper_errorResponse _ _ _)
  | some t =>
    refine (yields_transform s t { request := r } _ proper_empty).bind ?_
    intro outcome _
    cases outcome with
    | error err => exact .pure (proper_errorResponse _ _ _)
    | ok x =>
      refine (yields_forward s e.forwarding x.request).bind ?_
      intro outcome houtcome
      cases outcome with
      | error err => exact .pure (proper_errorResponse _ _ _)
      | ok response =>
        -- the response that came back is what the transform is given
        have hresponse : Proper response := houtcome response rfl
        refine (yields_transform s t { request := r, response } _ hresponse).bind ?_
        intro outcome houtcome
        cases outcome with
        | ok y => exact .pure (houtcome y rfl)
        | error err => exact .pure (proper_errorResponse _ _ _)

theorem yields_synthesize : Yields Proper (e.synthesize s.outside r) := by
  unfold synthesize
  cases e.transform with
  | none => exact .pure (proper_errorResponse _ _ _)
  | some t =>
    refine (yields_transform s t { request := r } _ proper_empty).bind ?_
    intro outcome houtcome
    cases outcome with
    | error err => exact .pure (proper_errorResponse _ _ _)
    | ok x =>
      by_cases hstatus : Response.validStatus x.response.status = true
      · simp only [if_pos hstatus]
        exact .pure (houtcome x rfl)
      · simp only [if_neg hstatus]
        exact .pure (proper_errorResponse _ _ _)

end Modes

/-- **An engine answers with canonical headers**, whatever its records hold and whatever transforms
and destinations do. -/
theorem canonical_of_process (e : Engine) (s : Surroundings σ) (r : Request) (w : σ) :
    (e.process s r w).1.1.headers.Canonical := by
  have hanswer : Yields (fun answer => Proper answer.1) (e.answer s.outside r) := by
    unfold answer
    cases e.mode with
    | virtualize => exact (yields_virtualize e s r).bind fun _ h => .pure h
    | capture => exact (yields_capture e s r).bind fun _ h => .pure h
    | simulate => exact (yields_simulate e s r).bind fun _ h => .pure h
    | modify => exact (yields_modify e s r).bind fun _ h => .pure h
    | synthesize => exact (yields_synthesize e s r).bind fun _ h => .pure h
  exact hanswer w

end Engine

end ReplayProxy
