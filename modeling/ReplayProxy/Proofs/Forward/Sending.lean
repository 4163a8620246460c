import ReplayProxy.Forward
import ReplayProxy.Proofs.Fallible

/-!
# What is sent

To forward a request is to send one request, which is `Forward.outgoing`, or none if there is no
such request. What comes back has no part in it (`Forward.log_forward`).
-/

namespace ReplayProxy.Forward

variable {settings : ForwardSettings} {r : Request} {out : Outgoing}

/-- What goes out for a request. -/
theorem outgoing_eq_ok (h : outgoing settings r = .ok out) :
    Url.parse? r.url = some out.url ∧ out.method = r.method ∧ out.body = r.body ∧
      out.headers = Outgoing.headersFor out.url (Http.passedOn r.headers) := by
  unfold outgoing at h
  -- nothing goes out unless the method, the URL and the headers are all accepted
  by_cases hmethod : Http.isToken r.method = true
  · cases hurl : Url.parse? r.url with
    | none =>
      simp only [hmethod, hurl] at h
      cases h
    | some url =>
      by_cases hheaders : (Http.passedOn r.headers).all
          (fun h => Http.isName h.1 && Http.isValue (Bytes.ofText h.2)) = true
      · simp only [hmethod, hurl, hheaders] at h
        cases h
        exact ⟨rfl, rfl, rfl, rfl⟩
      · simp only [hmethod, hurl, hheaders] at h
        cases h
  · simp only [hmethod] at h
    cases h

/-- What is sent is what goes out for the request. -/
theorem log_forward (settings : ForwardSettings) (s : Surroundings σ) (r : Request) (w : σ)
    (log : List Outgoing) :
    (forward settings s.logged r (w, log)).2.2 =
      match outgoing settings r with
      | .ok out => out :: log
      | .error _ => log := by
  unfold forward
  cases outgoing settings r with
  | error err => rfl
  | ok out =>
    have hsend : s.logged.send out (w, log) = ((s.send out w).1, ((s.send out w).2, out :: log)) :=
      rfl
    simp only [bind_apply, hsend]
    cases (s.send out w).1 with
    | failed reason => rfl
    | overran => rfl
    -- the body is read off the reply, without another request
    | reply incoming => cases hbody : incoming.body <;> simp only [hbody] <;> rfl

/-- Nothing else is sent. -/
theorem outgoing_of_mem {s : Surroundings σ} {w : σ}
    (h : out ∈ (forward settings s.logged r (w, [])).2.2) : outgoing settings r = .ok out := by
  rw [log_forward] at h
  cases houtgoing : outgoing settings r with
  | error err =>
    rw [houtgoing] at h
    cases h
  | ok out' =>
    rw [houtgoing] at h
    rw [List.mem_singleton.1 h]

end ReplayProxy.Forward
