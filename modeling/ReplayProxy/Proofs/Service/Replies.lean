import ReplayProxy.Handling
import ReplayProxy.Proofs.Engine.Responses
import ReplayProxy.Proofs.Http.PassedOn

/-!
# What clients are answered

The responses of an engine come from records, from destinations and from transforms, and nobody
has checked that HTTP can carry them: their status may be any number of sixteen bits, and their
headers any text. So it is decided when a response is written (`Reply.ofResponse`). It is either
*writable* (`Response.Writable`), and then the client gets all of it but the headers of one
connection, or the client gets nothing of it.

Whether a header can be carried is asked only of the headers that are passed on
(`Http.mem_passedOn`), one after the other, and the first one that cannot be carried decides
(`Reply.headersOf_eq`). The number of headers is not limited here.

An engine answers with canonical headers, wherever the response comes from
(`Engine.canonical_of_process`), so what is said of canonical responses holds of all that a client
is answered (`Engine.exists_response_of_handle`).

Main statement:

* `Reply.replies_wellFormed`: what becomes of a response, and that each client gets a status that
  HTTP has.
-/

namespace ReplayProxy

/-! ### Writing headers -/

namespace Http

/-- HTTP can carry the header. -/
def Legal (header : String × String) : Prop :=
  isName header.1 = true ∧ isValue (Bytes.ofText header.2) = true

instance : DecidablePred Legal := fun _ => inferInstanceAs (Decidable (_ ∧ _))

end Http

namespace Reply

/-- What is wrong with a header that cannot be carried. -/
def headerFault (header : String × String) : String :=
  if Http.isName header.1 then "failed to parse header value" else "invalid HTTP header name"

/-- Headers are written with small names, unless one of them cannot be carried; the first such one
is told. -/
theorem headersOf_eq (headers : List (String × String)) :
    headersOf headers =
      match headers.find? fun header => ¬Http.Legal header with
      | none => .ok (headers.map fun header => (Ascii.lower header.1, header.2))
      | some header => .error (headerFault header) := by
  induction headers with
  | nil => rfl
  | cons header headers ih =>
    obtain ⟨name, value⟩ := header
    rw [headersOf, List.find?_cons]
    by_cases hname : Http.isName name = true
    · by_cases hvalue : Http.isValue (Bytes.ofText value) = true
      · have hlegal : Http.Legal (name, value) := ⟨hname, hvalue⟩
        simp only [hname, hvalue, hlegal, ih, not_true_eq_false, decide_false, Bool.not_true,
          Bool.false_eq_true, if_false]
        -- the headers behind a legal one decide
        cases headers.find? fun header => ¬Http.Legal header <;> rfl
      · have hlegal : ¬Http.Legal (name, value) := fun h => hvalue h.2
        simp [hname, hvalue, hlegal, headerFault]
    · have hlegal : ¬Http.Legal (name, value) := fun h => hname h.1
      simp [hname, hlegal, headerFault]

/-- The texts that say why a response cannot be written. -/
def faults : List String :=
  ["invalid status code", "invalid HTTP header name", "failed to parse header value"]

theorem headerFault_mem (header : String × String) : headerFault header ∈ faults := by
  unfold headerFault faults
  split <;> simp

end Reply

namespace Response

/-- HTTP can carry the status and every header that is passed on. -/
structure Writable (r : Response) : Prop where
  status : 100 ≤ r.status ∧ r.status ≤ 999
  headers : ∀ name values, r.headers[name]? = some values → Http.isHopByHop name = false →
    ∀ value ∈ values, Http.Legal (name, value)

theorem validStatus_iff {status : UInt16} :
    validStatus status = true ↔ 100 ≤ status ∧ status ≤ 999 := by
  rw [validStatus, Bool.and_eq_true, decide_eq_true_iff, decide_eq_true_iff]

theorem writable_iff {r : Response} :
    r.Writable ↔
      validStatus r.status = true ∧ ∀ header ∈ Http.passedOn r.headers, Http.Legal header := by
  rw [validStatus_iff]
  -- what is passed on is listed value by value, and the headers are known by their names
  constructor
  · rintro ⟨hstatus, hheaders⟩
    refine ⟨hstatus, ?_⟩
    rintro ⟨name, value⟩ hmem
    obtain ⟨values, hget, hhop, hvalue⟩ := Http.mem_passedOn.1 hmem
    exact hheaders name values hget hhop value hvalue
  · rintro ⟨hstatus, hheaders⟩
    refine ⟨hstatus, ?_⟩
    intro name values hget hhop value hvalue
    exact hheaders (name, value) (Http.mem_passedOn.2 ⟨values, hget, hhop, hvalue⟩)

end Response

/-! ### Writing responses -/

namespace Reply

/-- A writable response is written. -/
theorem ofResponse_of_writable {r : Response} (h : r.Writable) :
    ofResponse r =
      { status := r.status
        headers := (Http.passedOn r.headers).map fun header => (Ascii.lower header.1, header.2)
        body := r.body } := by
  obtain ⟨hstatus, hheaders⟩ := Response.writable_iff.1 h
  have hnone : (Http.passedOn r.headers).find? (fun header => ¬Http.Legal header) = none := by
    rw [List.find?_eq_none]
    intro header hmem
    simpa using hheaders header hmem
  have hwritten : headersOf (Http.passedOn r.headers) =
      .ok ((Http.passedOn r.headers).map fun header => (Ascii.lower header.1, header.2)) := by
    rw [headersOf_eq, hnone]
  rw [ofResponse, ofResponse?, hstatus, hwritten]
  rfl

/-- Any other one is not, and one of three reasons is told. -/
theorem ofResponse_of_not_writable {r : Response} (h : ¬r.Writable) :
    ∃ reason ∈ faults, ofResponse r = unwritable reason := by
  rw [Response.writable_iff, not_and] at h
  by_cases hstatus : Response.validStatus r.status = true
  · -- the status is none of the reasons, so some header is
    cases hfind : (Http.passedOn r.headers).find? fun header => ¬Http.Legal header with
    | none =>
      refine absurd ?_ (h hstatus)
      intro header hmem
      simpa using List.find?_eq_none.1 hfind header hmem
    | some header =>
      refine ⟨headerFault header, headerFault_mem header, ?_⟩
      rw [ofResponse, ofResponse?, hstatus, headersOf_eq, hfind]
      rfl
  · refine ⟨"invalid status code", by simp [faults], ?_⟩
    rw [Bool.not_eq_true] at hstatus
    rw [ofResponse, ofResponse?, hstatus]
    rfl

/-- What a reply is to the response that it is made of. -/
structure Renders (r : Response) (reply : Reply) : Prop where
  /-- The headers of a connection stay behind in any case. -/
  passed : ∀ header ∈ reply.headers, Http.isHopByHop header.1 = false
  /-- What HTTP can carry arrives. -/
  written : r.Writable → reply.status = r.status ∧ reply.body = r.body ∧
    ∀ name, Http.isHopByHop name = false → namedValues name reply.headers = r.headers.values name
  /-- Of what it cannot carry nothing does. -/
  refused : ¬r.Writable → reply.status = 500 ∧ reply.headers = [] ∧
    ∃ reason ∈ faults, reply.body =
      Bytes.ofText ("Understudy Error! Could not build response." ++
        (" Got error: " ++ reason ++ "\n"))

/-- A name is written small, which is another spelling of it. -/
theorem namedValues_lower (name : String) (headers : List (String × String)) :
    namedValues name (headers.map fun header => (Ascii.lower header.1, header.2)) =
      namedValues name headers := by
  -- a name in small letters agrees with the names that it agreed with before
  have hsame : ∀ header : String × String,
      Ascii.sameLetters (Ascii.lower header.1) name = Ascii.sameLetters header.1 name := by
    intro header
    rw [Ascii.sameLetters, Ascii.sameLetters, Ascii.lower_lower]
  simp only [namedValues, List.filter_map, List.map_map, Function.comp_def, hsame]

theorem renders_ofResponse {r : Response} (hr : r.headers.Canonical) :
    Renders r (ofResponse r) := by
  -- a response that cannot be written is replaced as a whole, headers included
  by_cases hwritable : r.Writable
  · rw [ofResponse_of_writable hwritable]
    refine ⟨?_, ?_, fun hnot => absurd hwritable hnot⟩
    · intro header hmem
      obtain ⟨⟨name, value⟩, hpassed, rfl⟩ := List.mem_map.1 hmem
      obtain ⟨-, -, hhop, -⟩ := Http.mem_passedOn.1 hpassed
      rwa [Http.isHopByHop_congr (Ascii.lower_lower name)]
    · intro _
      refine ⟨rfl, rfl, ?_⟩
      intro name hname
      rw [namedValues_lower, Http.namedValues_passedOn hr hname]
  · obtain ⟨reason, hreason, hreply⟩ := ofResponse_of_not_writable hwritable
    rw [hreply]
    refine ⟨nofun, fun h => absurd h hwritable, fun _ => ⟨rfl, rfl, reason, hreason, ?_⟩⟩
    rfl

/-- Whatever the response is, the status is one that HTTP has. -/
theorem status_ofResponse (r : Response) :
    100 ≤ (ofResponse r).status ∧ (ofResponse r).status ≤ 999 := by
  by_cases hwritable : r.Writable
  · rw [ofResponse_of_writable hwritable]
    exact hwritable.status
  · obtain ⟨reason, -, hreply⟩ := ofResponse_of_not_writable hwritable
    rw [hreply]
    show (100 : UInt16) ≤ 500 ∧ (500 : UInt16) ≤ 999
    decide

end Reply

/-- Every reply to a client is written from a response with canonical headers. -/
theorem Engine.exists_response_of_handle {σ : Type} {e : Engine} {s : Surroundings σ}
    {c : ClientRequest} {w : σ} {reply : Reply} (h : (e.handle s c w).1.1 = .answered reply) :
    ∃ r : Response, r.headers.Canonical ∧ reply = .ofResponse r := by
  unfold handle at h
  -- where the engine answers at all, it does so with a response
  by_cases hconnect : c.method = "CONNECT"
  · simp [hconnect, pure_apply] at h
  · cases hhost : c.uri.host? with
    | none =>
      simp only [hconnect, hhost, if_false, pure_apply, Handled.answered.injEq] at h
      exact ⟨_, Headers.canonical_empty.add _ _, h.symm⟩
    | some host =>
      cases hconcerns : e.concerns host with
      | false => simp [hconnect, hhost, hconcerns, pure_apply] at h
      | true =>
        cases hrequest : c.request with
        | error err =>
          simp only [hconnect, hhost, hconcerns, hrequest, if_false, pure_apply, Bool.not_true,
            Bool.false_eq_true, Handled.answered.injEq] at h
          exact ⟨_, proper_errorResponse _ _ _, h.symm⟩
        | ok request =>
          simp only [hconnect, hhost, hconcerns, hrequest, if_false, pure_apply, bind_apply,
            Bool.not_true, Bool.false_eq_true, Handled.answered.injEq] at h
          exact ⟨_, canonical_of_process e s request w, h.symm⟩

namespace Reply

/-- **Replies are well formed.**

* A response with canonical headers, wherever it comes from, becomes a reply. If HTTP can carry its
  status and every header that is passed on, the reply has the status, the body, and under each name
  that does not belong to a connection the values in their order. Otherwise its status is 500, it
  has no headers, and its body says why and nothing else.
* Whatever the engine, the world and the request of the client are, an answer to the client is such
  a reply, and has a status between 100 and 999. -/
theorem replies_wellFormed :
    (∀ r : Response, r.headers.Canonical → Renders r (ofResponse r)) ∧
    ∀ {σ : Type} (e : Engine) (s : Surroundings σ) (c : ClientRequest) (w : σ) (reply : Reply),
      (e.handle s c w).1.1 = .answered reply →
        (∃ r : Response, r.headers.Canonical ∧ reply = ofResponse r) ∧
          100 ≤ reply.status ∧ reply.status ≤ 999 := by
  refine ⟨fun r hr => renders_ofResponse hr, ?_⟩
  intro σ e s c w reply h
  obtain ⟨r, hr, rfl⟩ := Engine.exists_response_of_handle h
  exact ⟨⟨r, hr, rfl⟩, status_ofResponse r⟩

/-- A response with a header of the connection that HTTP cannot carry, and another header with two
values. -/
def baked (status : UInt16) (cookie : String) : Response where
  status := status
  body := [0x00, 0xFF]
  headers := .ofPairs [("set-cookie", "a=1"), ("Connection", "\n"), ("Set-Cookie", cookie)]

/-- A request that names no host. -/
def toItself : ClientRequest where
  method := "GET"
  uri := ⟨none, none, "/", none⟩
  headers := []
  body := .ok []

/-- It is written without the header of the connection, whatever that is. With a line break in
another header it is not written, nor with the status 0. A client that asks the proxy itself is
answered as well. -/
theorem replies_wellFormed_baked :
    (baked 201 "b=2").headers.Canonical ∧ (baked 201 "b=2").Writable ∧
      (ofResponse (baked 201 "b=2")).status = 201 ∧
      namedValues "set-cookie" (ofResponse (baked 201 "b=2")).headers = ["a=1", "b=2"] ∧
      (¬(baked 201 "b\n").Writable ∧ (ofResponse (baked 201 "b\n")).status = 500) ∧
      (¬(baked 0 "b=2").Writable ∧ (ofResponse (baked 0 "b=2")).headers = []) ∧
      ∃ reply, (Engine.recorder.handle Engine.answering toItself ()).1.1 = .answered reply ∧
        100 ≤ reply.status := by
  obtain ⟨hrenders, hanswers⟩ := replies_wellFormed
  have hcanonical : ∀ status cookie, (baked status cookie).headers.Canonical :=
    fun _ _ => Headers.canonical_ofPairs _
  -- only the cookie is passed on, and it can be carried
  have hwritable : (baked 201 "b=2").Writable := by
    rw [Response.writable_iff]
    simp only [Http.passedOn, Http.isHopByHop, Ascii.sameLetters_eq]
    decide +kernel
  have hillegal : ¬(baked 201 "b\n").Writable := by
    rw [Response.writable_iff]
    simp only [Http.passedOn, Http.isHopByHop, Ascii.sameLetters_eq]
    decide +kernel
  have hnone : ¬(baked 0 "b=2").Writable := fun h => absurd h.status (by decide)
  have hwritten := (hrenders _ (hcanonical 201 "b=2")).written hwritable
  -- both cookies pass on, since the name is none of those of the connection
  have hcookies : namedValues "set-cookie" (ofResponse (baked 201 "b=2")).headers =
      ["a=1", "b=2"] := by
    have hhop : Http.isHopByHop "set-cookie" = false := by decide +kernel
    rw [hwritten.2.2 "set-cookie" hhop, baked, Headers.values_ofPairs]
    simp only [namedValues, Ascii.sameLetters_eq]
    decide +kernel
  exact ⟨hcanonical 201 "b=2", hwritable, hwritten.1, hcookies,
    ⟨hillegal, ((hrenders _ (hcanonical 201 "b\n")).refused hillegal).1⟩,
    ⟨hnone, ((hrenders _ (hcanonical 0 "b=2")).refused hnone).2.1⟩,
    toSelf, rfl, (hanswers Engine.recorder Engine.answering toItself () toSelf rfl).2.1⟩

end Reply

end ReplayProxy
