import ReplayProxy.Proofs.Engine.Modes

/-!
# A neutral transform is invisible

A transform is *neutral* when what it gives back stands for the exchange that it was given: it
writes nothing but white space, or a payload with the same request and the same response
(`Transform.Neutral`). The payload may differ in everything else, such as its identifier, its
spacing or the way in which a body is encoded. An echo is neutral (`Transform.neutral_of_echo`),
because payloads are read back from their bytes.

That no one notices a neutral transform is a comparison of runs: of an engine with the transform,
and of the engine without it. Two runs look *alike* (`Engine.Alike`) when they give the same
response, call the same destinations with the same requests, and leave the same records. The
request that is transformed first comes with the empty response, whose status is 0; it passes
through the payload like any other, and in a synthesis it is all there is.

Main statement:

* `Engine.process_of_neutral`: with a neutral transform, modifying looks like forwarding,
  capturing and simulating look as they do without it, and synthesizing fails.
-/

namespace ReplayProxy

/-! ### Neutral transforms -/

namespace Transform

variable {σ : Type}

/-- The bytes that a transform gives back for an input. -/
def output (t : Transform) (s : Surroundings σ) (input : Bytes) :
    StateM σ (Except TransformError Bytes) :=
  match t.definition with
  | .command program arguments => runCommand s t.limit program arguments input
  | .remote address => callRemote s t.limit address input

/-- An exchange is read off the output for its payload. -/
theorem apply_apply (t : Transform) (s : Surroundings σ) (x : Exchange) (id : String) (w : σ) :
    (t.apply s x id w).1 =
      (t.output s (Payload.ofExchange x id).toValue.bytes w).1 >>= result x := by
  obtain ⟨definition, limit⟩ := t
  cases definition with
  | command program arguments =>
    simp only [apply, output, bind_apply]
    cases (runCommand s limit program arguments (Payload.ofExchange x id).toValue.bytes w).1 <;> rfl
  | remote address =>
    simp only [apply, output, bind_apply]
    cases (callRemote s limit address (Payload.ofExchange x id).toValue.bytes w).1 <;> rfl

/-- An output stands for the exchange that was given: it says nothing, or the same. -/
inductive Keeps (x : Exchange) (output : Bytes) : Prop
  | blank (h : output.all Blank.isAsciiBlank = true)
  | same {p : Payload} {y : Exchange} (hparse : Payload.parse output = .ok p)
    (hy : p.exchange = .ok y) (hrequest : y.request = x.request)
    (hresponse : y.response = x.response)

theorem result_of_keeps {x : Exchange} {output : Bytes} (h : Keeps x output) :
    ∃ y, result x output = .ok y ∧ y.request = x.request ∧ y.response = x.response := by
  unfold result
  by_cases hblank : output.all Blank.isAsciiBlank = true
  · exact ⟨x, if_pos hblank, rfl, rfl⟩
  · cases h with
    | blank h => exact absurd h hblank
    | @same p y hparse hy hrequest hresponse =>
      refine ⟨y, ?_, hrequest, hresponse⟩
      rw [if_neg hblank, hparse]
      simp only [hy]

/-- On every payload that an engine may give it, the transform succeeds, and its output stands
for the exchange. Engines use the fingerprint of the request as the identifier, and the
exchanges that they give away have no kind. -/
def Neutral (t : Transform) (s : Surroundings σ) : Prop :=
  ∀ x : Exchange, x.Canonical → x.kind = none → ∀ w, ∃ output,
    (t.output s (Payload.ofExchange x x.request.fingerprint).toValue.bytes w).1 = .ok output ∧
      Keeps x output

/-- The payload of an exchange gives the exchange back. -/
theorem keeps_payload {x : Exchange} (h : x.Canonical) (id : String) :
    Keeps x (Payload.ofExchange x id).toValue.bytes := by
  have hexchange : (Payload.ofExchange x id).exchange = .ok x := by
    have hforms : (Payload.ofExchange x id).exchange = (ExchangeForm.ofExchange x).exchange := rfl
    rw [hforms, ExchangeForm.exchange_ofExchange, Exchange.canonical_eq_self h]
  exact .same (Payload.parse_bytes _) hexchange rfl rfl

/-- What gives back its input is neutral. -/
theorem neutral_of_echo {t : Transform} {s : Surroundings σ}
    (h : ∀ input w, (t.output s input w).1 = .ok input) : t.Neutral s :=
  fun _ hx _ w => ⟨_, h _ w, keeps_payload hx _⟩

/-- So is what never writes anything but white space. -/
theorem neutral_of_blank {t : Transform} {s : Surroundings σ}
    (h : ∀ input w, ∃ output, (t.output s input w).1 = .ok output ∧
      output.all Blank.isAsciiBlank = true) : t.Neutral s := by
  intro x _ _ w
  obtain ⟨output, houtput, hblank⟩ := h (Payload.ofExchange x x.request.fingerprint).toValue.bytes w
  exact ⟨output, houtput, .blank hblank⟩

end Transform

namespace Outside

variable {σ : Type}

/-- Whatever the state of the world, the transform gives back the request and the response of
an exchange. -/
def Keeps (o : Outside σ) (t : Transform) (x : Exchange) : Prop :=
  ∀ w, ∃ y, (o.transform t x x.request.fingerprint w).1 = .ok y ∧ y.request = x.request ∧
    y.response = x.response

end Outside

theorem Transform.Neutral.keeps {σ : Type} {t : Transform} {s : Surroundings σ} (h : t.Neutral s)
    {r : Request} {response : Response} (hr : r.headers.Canonical)
    (hresponse : response.headers.Canonical) : s.outside.Keeps t { request := r, response } := by
  intro w
  obtain ⟨output, houtput, hkeeps⟩ := h { request := r, response } ⟨hr, hresponse⟩ rfl w
  obtain ⟨y, hy, hsame⟩ := result_of_keeps hkeeps
  refine ⟨y, ?_, hsame⟩
  show (t.apply s _ r.fingerprint w).1 = .ok y
  rw [apply_apply, houtput, ok_bind, hy]

namespace Engine

variable {σ : Type}

/-! ### Runs that look alike -/

/-- The calls to destinations that answering a request makes. -/
def forwards (e : Engine) (o : Outside σ) (r : Request) (w : σ) : List Call :=
  (e.calls o r w).filter Call.isForward

/-- Two engines answer a request with the same response, call the same destinations with the
same requests, and have the same records afterwards. -/
structure Alike (e e' : Engine) (s : Surroundings σ) (r : Request) (w : σ) : Prop where
  response : (e.process s r w).1.1 = (e'.process s r w).1.1
  forwards : e.forwards s.outside r w = e'.forwards s.outside r w
  requests : (e.process s r w).1.2.requests = (e'.process s r w).1.2.requests

/-- The engine without its transform. -/
def plain (e : Engine) : Engine := { e with transform := none }

/-- What an answer comes to: the response, the calls to destinations and the records. -/
structure Comes (e : Engine) (o : Outside σ) (r : Request) (w : σ) (response : Response)
    (sent : List Call) (requests : Cache) : Prop where
  response : (e.answer o r w).1.1 = response
  forwards : e.forwards o r w = sent
  requests : (e.answer o r w).1.2.requests = requests

theorem Comes.alike {e e' : Engine} {s : Surroundings σ} {r : Request} {w : σ}
    {response : Response} {sent : List Call} {requests : Cache}
    (h : e.Comes s.outside r w response sent requests)
    (h' : e'.Comes s.outside r w response sent requests) : e.Alike e' s r w :=
  ⟨h.response.trans h'.response.symm, h.forwards.trans h'.forwards.symm,
    h.requests.trans h'.requests.symm⟩

/-- An answer is read off its run with the calls written down. -/
theorem comes_of_traced {e : Engine} {o : Outside σ} {r : Request} {w : σ} {response : Response}
    {sent : List Call} {requests : Cache} (e' : Engine) (w' : σ) (calls : List Call)
    (h : e.answer o.traced r (w, []) = ((response, e'), (w', calls)))
    (hsent : calls.filter Call.isForward = sent) (hrequests : e'.requests = requests) :
    e.Comes o r w response sent requests := by
  -- writing the calls down changes neither the response nor the engine
  have hsame := (answer_traced e o r (w, [])).1
  rw [h] at hsame
  refine ⟨by rw [← hsame], ?_, by rw [← hsame, hrequests]⟩
  rw [forwards, Engine.calls, h, hsent]

section Modes

variable {e : Engine} {o : Outside σ} {r : Request} {response : Response} {t : Transform}

/-- The destination of a request gives the same answer in every state of the world. -/
def Answers (e : Engine) (o : Outside σ) (r : Request) (response : Response) : Prop :=
  ∀ w, (o.forward e.forwarding r w).1 = .ok response

theorem traced_transform_of_keeps {x : Exchange} (h : o.Keeps t x) (w : σ) :
    ∃ y w', y.request = x.request ∧ y.response = x.response ∧ ∀ log,
      o.traced.transform t x x.request.fingerprint (w, log) =
        (.ok y, (w', log ++ [.transformed t x x.request.fingerprint (.ok y)])) := by
  obtain ⟨y, hy, hrequest, hresponse⟩ := h w
  refine ⟨y, (o.transform t x x.request.fingerprint w).2, hrequest, hresponse, fun log => ?_⟩
  simp only [Outside.traced, hy]

theorem traced_forward_of_answers (h : e.Answers o r response) (w : σ) :
    ∃ w', ∀ log, o.traced.forward e.forwarding r (w, log) =
      (.ok response, (w', log ++ [.forwarded r (.ok response)])) := by
  refine ⟨(o.forward e.forwarding r w).2, fun log => ?_⟩
  simp only [Outside.traced, h w]

theorem comes_virtualize (h : e.Answers o r response) (w : σ) :
    (e.inMode .virtualize).Comes o r w response [.forwarded r (.ok response)] e.requests := by
  obtain ⟨w', hforward⟩ := traced_forward_of_answers h w
  refine comes_of_traced
    { e.inMode .virtualize with counters := e.counters.increment .virtualize } w'
    [.forwarded r (.ok response)] ?_ rfl rfl
  simp only [answer, inMode, virtualize, bind_apply, pure_apply, hforward]
  rfl

/-- A neutral transform is called before and after the destination. -/
theorem comes_modify (ht : e.transform = some t) (hrequest : o.Keeps t { request := r })
    (hexchange : o.Keeps t { request := r, response }) (h : e.Answers o r response) (w : σ) :
    (e.inMode .modify).Comes o r w response [.forwarded r (.ok response)] e.requests := by
  obtain ⟨x, w₁, hx, -, hfirst⟩ := traced_transform_of_keeps hrequest w
  obtain ⟨w₂, hforward⟩ := traced_forward_of_answers h w₁
  obtain ⟨y, w₃, -, hy, hsecond⟩ := traced_transform_of_keeps hexchange w₂
  -- what the transform gives back for the request is the request, so that is what goes out
  refine comes_of_traced { e.inMode .modify with counters := e.counters.increment .modify } w₃
    [.transformed t { request := r } r.fingerprint (.ok x), .forwarded r (.ok response),
      .transformed t { request := r, response } r.fingerprint (.ok y)] ?_ rfl rfl
  simp only [answer, inMode, modify, ht, bind_apply, pure_apply, hfirst, hx, hforward, hsecond, hy]
  rfl

/-- A capture records the request as it came, with or without a neutral transform. -/
theorem comes_capture (hkeeps : ∀ t ∈ e.transform, o.Keeps t { request := r })
    (h : e.Answers o r response) (w : σ) :
    (e.inMode .capture).Comes o r w response [.forwarded r (.ok response)]
      (record e.requests r.key (recording r response)) := by
  -- with a transform there is one more call in the log, and nothing else is different
  cases ht : e.transform with
  | none =>
    obtain ⟨w', hforward⟩ := traced_forward_of_answers h w
    refine comes_of_traced
      { e.inMode .capture with
        requests := record e.requests r.key (recording r response)
        counters := e.counters.increment .capture } w'
      [.forwarded r (.ok response)] ?_ rfl rfl
    simp only [answer, inMode, capture, prepared, ht, bind_apply, pure_apply, hforward]
    rfl
  | some t =>
    obtain ⟨x, w₁, hx, -, htransform⟩ := traced_transform_of_keeps (hkeeps t ht) w
    obtain ⟨w₂, hforward⟩ := traced_forward_of_answers h w₁
    refine comes_of_traced
      { e.inMode .capture with
        requests := record e.requests r.key (recording r response)
        counters := e.counters.increment .capture } w₂
      [.transformed t { request := r } r.fingerprint (.ok x), .forwarded r (.ok response)]
      ?_ rfl rfl
    simp only [answer, inMode, capture, prepared, ht, bind_apply, pure_apply, htransform, hx,
      hforward]
    rfl

/-- A simulation answers what is replayed, with or without a neutral transform. -/
theorem comes_simulate (hkeeps : ∀ t ∈ e.transform, ∀ found, e.lookup r.key = .ok found →
      o.Keeps t { request := r, response := found.response }) (w : σ) :
    (e.inMode .simulate).Comes o r w (e.replayed r) [] e.requests := by
  let e' : Engine := { e.inMode .simulate with counters := e.counters.increment .simulate }
  have hmode : (e.inMode .simulate).mode = .simulate := rfl
  -- only what is found is passed through the transform
  cases hfound : e.lookup r.key with
  | error err =>
    have hlookup : (e.inMode .simulate).lookup r.key = .error err := hfound
    refine comes_of_traced e' w [] ?_ rfl rfl
    simp only [answer, hmode, simulate, hlookup, replayed, hfound, bind_apply]
    cases err.isNotFound <;> rfl
  | ok found =>
    have hlookup : (e.inMode .simulate).lookup r.key = .ok found := hfound
    have hreplayed : e.replayed r = found.response := by rw [replayed, hfound]
    rw [hreplayed]
    cases ht : e.transform with
    | none =>
      have hplain : (e.inMode .simulate).transform = none := ht
      have hsimulate : (e.inMode .simulate).simulate o.traced r (w, []) =
          (found.response, (w, [])) := by
        simp only [simulate, hlookup, hplain]
        rfl
      refine comes_of_traced e' w [] ?_ rfl rfl
      simp only [answer, hmode, bind_apply, hsimulate]
      rfl
    | some t =>
      have htransform : (e.inMode .simulate).transform = some t := ht
      obtain ⟨x, w', -, hx, hcall⟩ := traced_transform_of_keeps (hkeeps t ht found hfound) w
      have hsimulate : (e.inMode .simulate).simulate o.traced r (w, []) =
          (found.response, (w', [.transformed t { request := r, response := found.response }
            r.fingerprint (.ok x)])) := by
        simp only [simulate, hlookup, htransform, bind_apply, hcall, hx]
        rfl
      refine comes_of_traced e' w'
        [.transformed t { request := r, response := found.response } r.fingerprint (.ok x)]
        ?_ rfl rfl
      simp only [answer, hmode, bind_apply, hsimulate]
      rfl

/-- A neutral transform makes nothing up: the status stays 0, which HTTP cannot carry. -/
theorem status_synthesize (ht : e.transform = some t) (hrequest : o.Keeps t { request := r })
    (w : σ) : ((e.inMode .synthesize).answer o r w).1.1.status = 503 := by
  -- an exchange without a response has one with the status 0
  obtain ⟨x, hx, -, hresponse⟩ := hrequest w
  have hinvalid : Response.validStatus x.response.status = false := by rw [hresponse]; rfl
  simp only [answer, inMode, synthesize, ht, bind_apply, hx, hinvalid]
  rfl

end Modes

/-! ### Invisibility -/

/-- What is looked up has canonical headers. -/
theorem canonical_of_lookup {e : Engine} {key : Bytes} {x : Exchange}
    (h : e.lookup key = .ok x) : x.Canonical := by
  unfold lookup at h
  cases hget : e.requests.get key with
  | error err => simp [hget] at h
  | ok value =>
    cases hdecode : Exchange.decode value with
    | error err => simp [hget, hdecode] at h
    | ok y =>
      obtain rfl : y = x := by simpa [hget, hdecode] using h
      exact Exchange.canonical_of_decode hdecode

/-- **A neutral transform is invisible.** For a request with canonical headers, whatever is
recorded:

* if the destination answers, then modifying looks like forwarding without a transform, and
  capturing looks as it does without one; the request that is sent is the one that came;
* simulating looks as it does without a transform, whether anything is found or not;
* synthesizing fails. -/
theorem process_of_neutral {e : Engine} {t : Transform} {s : Surroundings σ} {r : Request}
    (ht : e.transform = some t) (hneutral : t.Neutral s) (hr : r.headers.Canonical) (w : σ) :
    (∀ response, e.Answers s.outside r response →
        (e.inMode .modify).Alike (e.plain.inMode .virtualize) s r w ∧
          (e.inMode .modify).forwards s.outside r w = [.forwarded r (.ok response)] ∧
          (e.inMode .capture).Alike (e.plain.inMode .capture) s r w) ∧
      (e.inMode .simulate).Alike (e.plain.inMode .simulate) s r w ∧
      ((e.inMode .synthesize).process s r w).1.1.status = 503 := by
  have hrequest : s.outside.Keeps t { request := r } :=
    hneutral.keeps hr Headers.canonical_empty
  have heach : ∀ t' ∈ e.transform, t' = t := fun t' ht' => by
    rw [ht] at ht'
    exact (Option.some.inj ht').symm
  -- without a transform there is nothing to keep
  have hplain : ∀ {P : Transform → Prop}, ∀ t' ∈ e.plain.transform, P t' :=
    fun t' ht' => absurd ht' (Option.not_mem_none t')
  refine ⟨fun response hanswers => ?_, ?_, status_synthesize ht hrequest w⟩
  · -- what a destination answers is canonical, so the transform keeps it as well
    have hresponse : response.headers.Canonical := Forward.canonical_of_forward (hanswers w)
    -- each run comes to the same answer, calls and records, one with a transform and one without
    have hmodify := comes_modify ht hrequest (hneutral.keeps hr hresponse) hanswers w
    have hvirtualize := comes_virtualize (e := e.plain) hanswers w
    have hcapture := comes_capture (fun t' ht' => heach t' ht' ▸ hrequest) hanswers w
    have hcapture' := comes_capture (e := e.plain) hplain hanswers w
    exact ⟨hmodify.alike hvirtualize, hmodify.forwards, hcapture.alike hcapture'⟩
  · -- and so is what is found in the records
    have hfound : ∀ t' ∈ e.transform, ∀ found, e.lookup r.key = .ok found →
        s.outside.Keeps t' { request := r, response := found.response } := by
      intro t' ht' found hlookup
      rw [heach t' ht']
      exact hneutral.keeps hr (canonical_of_lookup hlookup).response
    have hsimulate := comes_simulate hfound w
    have hsimulate' := comes_simulate (e := e.plain) (o := s.outside) (r := r) hplain w
    exact hsimulate.alike hsimulate'

/-- The world of `answering`, with a program that repeats its input and one that is silent. -/
def repeating : Surroundings Unit where
  start call := pure (
    if call.program = "cat" then .ended (.code 0) call.input []
    else if call.program = "true" then .ended (.code 0) [] []
    else .notStarted "No such file or directory")
  send := answering.send

/-- The program that repeats and the one that is silent are both invisible to the order. -/
theorem process_of_neutral_cat :
    let repeater : Engine := { recorder with transform := some ⟨.command "cat" [], none⟩ }
    let silent : Engine := { recorder with transform := some ⟨.command "true" [], none⟩ }
    (repeater.inMode .modify).Alike (repeater.plain.inMode .virtualize) repeating order () ∧
      (repeater.inMode .capture).Alike (repeater.plain.inMode .capture) repeating order () ∧
      (silent.inMode .simulate).Alike (silent.plain.inMode .simulate) repeating order () ∧
      ((silent.inMode .synthesize).process repeating order ()).1.1.status = 503 := by
  intro repeater silent
  have hcat : Transform.Neutral ⟨.command "cat" [], none⟩ repeating :=
    Transform.neutral_of_echo fun input w => rfl
  have htrue : Transform.Neutral ⟨.command "true" [], none⟩ repeating :=
    Transform.neutral_of_blank fun input w => ⟨[], rfl, rfl⟩
  have horder : order.headers.Canonical := Headers.canonical_ofPairs _
  -- modes that forward are alike only where the destination answers, and here it does
  obtain ⟨response, hresponse⟩ : ∃ response, repeater.Answers repeating.outside order response := by
    have hok : (Forward.forward {} repeating order ()).1.toOption.isSome = true := by
      decide +kernel
    cases hforward : (Forward.forward {} repeating order ()).1 with
    | error err => simp [hforward, Except.toOption] at hok
    | ok response => exact ⟨response, fun _ => hforward⟩
  obtain ⟨hmodify, -, hcapture⟩ :=
    (process_of_neutral rfl hcat horder ()).1 response hresponse
  obtain ⟨-, hsimulate, hsynthesize⟩ := process_of_neutral (e := silent) rfl htrue horder ()
  exact ⟨hmodify, hcapture, hsimulate, hsynthesize⟩

end Engine

end ReplayProxy
