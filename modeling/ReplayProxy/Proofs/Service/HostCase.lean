import ReplayProxy.Certificate.Issuance
import ReplayProxy.Proofs.Engine.Modes
import ReplayProxy.Proofs.Engine.Replay
import ReplayProxy.Proofs.Fingerprint.Framing
import ReplayProxy.Proofs.Http.Authority
import ReplayProxy.Proofs.Regex.Letters
import ReplayProxy.Proofs.Service.Events

/-!
# One host in several spellings

The names of hosts have no case. Three parts of the proxy decide which host a request is for:
the fingerprint, the leaves that are shown to clients, and the pattern of the hosts that the
engine deals with. The first two put the letters of a name in lower case
(`ClientRequest.Respelled.key`, `Issuance.serve_congr`). The pattern is a regular expression over
the name as it is written, so the three agree when the pattern ignores case.

Main statements:

* `Engine.spelled_alike`: requests for two spellings of a host have one key and one leaf, and an
  engine whose pattern ignores case decides alike about them (`Engine.DecidesAlike`).
* `Engine.spelling_decides`: an engine whose pattern tells the spellings apart passes a request
  on that it would have answered from its records.
-/

namespace ReplayProxy

/-! ### Keys and leaves -/

/-- The key of a request does not depend on the spelling of its destination. -/
theorem Request.key_congr {r : Request} {destination : String}
    (h : Ascii.lower destination = Ascii.lower r.destination) :
    Request.key { r with destination } = r.key := by
  have hparts : Fingerprint.parts { r with destination } = Fingerprint.parts r := by
    simp only [Fingerprint.parts, h]
    rfl
  rw [Request.key, Request.key, Request.fingerprint, Request.fingerprint, Fingerprint.preimage,
    Fingerprint.preimage, hparts]

/-- Leaves are found and issued without regard to the spelling of the host. -/
theorem Issuance.serve_congr (i : Issuance) {host host' : String}
    (h : Ascii.lower host = Ascii.lower host') (now : Second) :
    i.serve host now = i.serve host' now := by
  rw [serve, serve, h]

namespace ClientRequest

/-- The destination of an authority is spelled as the authority is. -/
theorem destination_lower (scheme authority : String) :
    destination scheme (Ascii.lower authority) = Ascii.lower (destination scheme authority) := by
  unfold destination
  rw [Http.Uri.portOf?_lower, Http.Uri.hostOf_lower]
  cases Http.Uri.portOf? authority with
  | none => rfl
  | some port => exact (apply_ite Ascii.lower _ _ _).symm

/-- Two requests that differ in nothing but the case of letters in the authority that they
name. -/
structure Respelled (r r' : ClientRequest) : Prop where
  method : r.method = r'.method
  scheme : r.uri.scheme = r'.uri.scheme
  authority : r.uri.authority.map Ascii.lower = r'.uri.authority.map Ascii.lower
  path : r.uri.writtenPath = r'.uri.writtenPath
  query : r.uri.query = r'.uri.query
  headers : r.headers = r'.headers
  body : r.body = r'.body

namespace Respelled

variable {r r' : ClientRequest}

/-- Both requests name no authority, or both name one. -/
theorem authorities (h : Respelled r r') :
    (r.uri.authority = none ∧ r'.uri.authority = none) ∨
      ∃ a a', r.uri.authority = some a ∧ r'.uri.authority = some a' ∧
        Ascii.lower a = Ascii.lower a' := by
  have hauthority := h.authority
  cases ha : r.uri.authority with
  | none =>
    rw [ha, Option.map_none, eq_comm, Option.map_eq_none_iff] at hauthority
    exact .inl ⟨rfl, hauthority⟩
  | some a =>
    rw [ha, Option.map_some, eq_comm, Option.map_eq_some_iff] at hauthority
    obtain ⟨a', ha', hlower⟩ := hauthority
    exact .inr ⟨a, a', rfl, ha', hlower.symm⟩

/-- The path that is asked for is the same. -/
theorem path_eq (h : Respelled r r') : r.uri.path = r'.uri.path := by
  rw [Http.Uri.path, Http.Uri.path, h.path, h.scheme, h.query]

/-- Both are read, with destinations that agree up to case, or neither is, for the same
reason. -/
theorem request (h : Respelled r r') :
    (∃ err, r.request = .error err ∧ r'.request = .error err) ∨
      ∃ q destination, r.request = .ok q ∧ r'.request = .ok { q with destination } ∧
        Ascii.lower destination = Ascii.lower q.destination := by
  have hbody := h.body
  rcases h.authorities with ⟨hnone, hnone'⟩ | ⟨a, a', ha, ha', hlower⟩
  · -- without an authority the two targets are one
    have huri : r.uri = r'.uri := by
      rw [Http.Uri.mk.injEq]
      exact ⟨h.scheme, hnone.trans hnone'.symm, h.path, h.query⟩
    refine .inl ⟨.http ("no authority in " ++ r.uri.render), ?_, ?_⟩
    · simp only [ClientRequest.request, hnone]
      rfl
    · rw [huri]
      simp only [ClientRequest.request, hnone']
      rfl
  · cases hread : r.body with
    | error reason =>
      refine .inl ⟨.http ("failed to read request body: " ++ reason), ?_, ?_⟩
      · exact request_of_body_error ha hread
      · exact request_of_body_error ha' (h.body.symm.trans hread)
    | ok body =>
      -- all that is read is the same but the destination, which is spelled as the authority is
      have hr' := request_of_body ha' (h.body.symm.trans hread)
      rw [← h.scheme, ← h.path_eq, ← h.query, ← h.method, ← h.headers] at hr'
      refine .inr ⟨_, _, request_of_body ha hread, hr', ?_⟩
      rw [← destination_lower, ← hlower, destination_lower]

/-- Hosts that are named are spelled as their authorities are. -/
theorem hosts (h : Respelled r r') :
    r.uri.host?.map Ascii.lower = r'.uri.host?.map Ascii.lower := by
  rcases h.authorities with ⟨hnone, hnone'⟩ | ⟨a, a', ha, ha', hlower⟩
  · rw [Http.Uri.host?, Http.Uri.host?, hnone, hnone']
  · simp only [Http.Uri.host?, ha, ha', Option.map_some]
    rw [← Http.Uri.hostOf_lower, hlower, Http.Uri.hostOf_lower]

/-- The keys are the same. -/
theorem key (h : Respelled r r') : r.request.map Request.key = r'.request.map Request.key := by
  rcases h.request with ⟨err, hr, hr'⟩ | ⟨q, destination, hr, hr', hlower⟩
  · rw [hr, hr']
  · rw [hr, hr']
    exact congrArg Except.ok (Request.key_congr hlower).symm

/-- The leaves are the same. -/
theorem leaf (h : Respelled r r') (i : Issuance) (now : Second) :
    r.uri.host?.map (i.serve · now) = r'.uri.host?.map (i.serve · now) := by
  -- what is served for a host is served for it in small letters, where the spellings meet
  have hserve : ∀ host, i.serve host now = i.serve (Ascii.lower host) now := fun host =>
    i.serve_congr (Ascii.lower_lower host).symm now
  have hlower : ∀ host? : Option String,
      host?.map (i.serve · now) = (host?.map Ascii.lower).map (i.serve · now) := fun host? => by
    rw [Option.map_map]
    exact congrArg (Option.map · host?) (funext hserve)
  rw [hlower, h.hosts, ← hlower]

end Respelled

end ClientRequest

/-! ### The pattern of hosts -/

namespace Engine

variable {e : Engine} {r r' : ClientRequest}

/-- What is passed on: requests for tunnels, and those for hosts that do not concern the
engine. -/
theorem handle_passed_iff (e : Engine) (s : Surroundings σ) (r : ClientRequest) (w : σ) :
    (e.handle s r w).1.1 = .passed ↔
      r.method = "CONNECT" ∨ ∃ host, r.uri.host? = some host ∧ e.concerns host = false := by
  unfold handle
  by_cases hconnect : r.method = "CONNECT"
  · rw [if_pos hconnect]
    exact ⟨fun _ => .inl hconnect, fun _ => rfl⟩
  · rw [if_neg hconnect]
    cases hhost : r.uri.host? with
    | none => simp [hconnect, pure_apply]
    | some host =>
      cases hconcerns : e.concerns host with
      | false => simp [hconcerns, pure_apply]
      | true =>
        -- whether the request can be read or not, there is an answer
        cases r.request <;> simp [hconnect, hconcerns, bind_apply, pure_apply]

/-- Without a transform, a simulation goes by the key of a request alone. -/
theorem process_of_key_eq (hmode : e.mode = .simulate) (hplain : e.transform = none)
    {q q' : Request} (h : q.key = q'.key) (s : Surroundings σ) :
    e.process s q = e.process s q' := by
  -- the key is all that a simulation without a transform looks at
  have hsimulate : e.simulate s.outside q = e.simulate s.outside q' := by
    simp only [simulate, h, hplain]
  simp only [process, answer, hmode, hsimulate]

/-- Nor does it touch the world. -/
theorem process_world (hmode : e.mode = .simulate) (hplain : e.transform = none)
    (s : Surroundings σ) (q : Request) (w : σ) : (e.process s q w).2 = w := by
  rw [(process_simulate hmode s q w).2]
  -- whether something is found or not, there is nobody to ask
  cases hfound : e.lookup q.key with
  | ok x => rw [simulate_of_lookup hplain hfound]
  | error err =>
    simp only [simulate, hfound]
    cases err.isNotFound <;> rfl

/-- So no request of a client is heard of outside. -/
theorem handle_world (hmode : e.mode = .simulate) (hplain : e.transform = none)
    (s : Surroundings σ) (r : ClientRequest) (w : σ) : (e.handle s r w).2 = w := by
  cases htakes : e.takesUp r with
  | false => exact (handle_of_not_takesUp s w htakes).2
  | true =>
    obtain ⟨q, -, -, hworld⟩ := handle_of_takesUp s w htakes
    rw [hworld, process_world hmode hplain]

/-- An engine makes the same decisions about two requests of clients. -/
structure DecidesAlike (e : Engine) (r r' : ClientRequest) : Prop where
  /-- It looks into the traffic to both hosts or to none. -/
  intercepts : e.intercepts r.uri = e.intercepts r'.uri
  /-- It answers both requests itself or none. -/
  takesUp : e.takesUp r = e.takesUp r'
  /-- Both requests are passed on or none. -/
  passed : ∀ {σ : Type} (s : Surroundings σ) (w : σ),
    (e.handle s r w).1.1 = .passed ↔ (e.handle s r' w).1.1 = .passed
  /-- If it simulates and answers the first request, no destination hears of the second. -/
  silent : e.mode = .simulate → ∀ {σ : Type} (s : Surroundings σ) (w : σ) (reply : Reply),
    (e.handle s r w).1.1 = .answered reply → (e.handle s r' w).1.1 ≠ .passed ∧
      ∀ q, r'.request = .ok q → (e.calls s.outside q w).countP Call.isForward = 0
  /-- Without a transform it simulates the same reply to both, and the world takes no notice. -/
  replayed : e.mode = .simulate → e.transform = none →
    ∀ {σ : Type} (s : Surroundings σ) (w : σ),
      e.handle s r w = e.handle s r' w ∧ (e.handle s r' w).2 = w

/-- A simulation without a transform does the same with two spellings of a host, of which both
concern it or none. -/
theorem handle_of_respelled (h : r.Respelled r')
    (hconcerns : r.uri.host?.map e.concerns = r'.uri.host?.map e.concerns)
    (hmode : e.mode = .simulate) (hplain : e.transform = none) (s : Surroundings σ) :
    e.handle s r = e.handle s r' := by
  unfold handle
  rw [h.method]
  cases hhost : r.uri.host? with
  | none =>
    rw [hhost, Option.map_none, eq_comm, Option.map_eq_none_iff] at hconcerns
    rw [hconcerns]
  | some host =>
    rw [hhost, Option.map_some, eq_comm, Option.map_eq_some_iff] at hconcerns
    obtain ⟨host', hhost', hsame⟩ := hconcerns
    -- the two are read alike, and a simulation goes by the key
    rcases h.request with ⟨err, hr, hr'⟩ | ⟨q, destination, hr, hr', hlower⟩
    · simp only [hhost', hsame, hr, hr']
    · simp only [hhost', hsame, hr, hr',
        process_of_key_eq hmode hplain (Request.key_congr hlower) s]

/-- An engine decides alike about two spellings of a host of which both concern it or none. -/
theorem decidesAlike (h : r.Respelled r')
    (hconcerns : r.uri.host?.map e.concerns = r'.uri.host?.map e.concerns) :
    e.DecidesAlike r r' := by
  have hintercepts : e.intercepts r.uri = e.intercepts r'.uri := by
    have hany : ∀ host? : Option String,
        host?.any e.concerns = (host?.map e.concerns).any id := fun host? => by
      cases host? <;> rfl
    rw [Engine.intercepts, Engine.intercepts, hany, hconcerns, ← hany]
  have hpassed : ∀ {σ : Type} (s : Surroundings σ) (w : σ),
      (e.handle s r w).1.1 = .passed ↔ (e.handle s r' w).1.1 = .passed := by
    intro σ s w
    -- to be passed, a request has to name a host that does not concern the engine
    have hunconcerned : ∀ r : ClientRequest,
        (∃ host, r.uri.host? = some host ∧ e.concerns host = false) ↔
          r.uri.host?.map e.concerns = some false := fun r => by
      rw [Option.map_eq_some_iff]
    rw [handle_passed_iff, handle_passed_iff, hunconcerned, hunconcerned, hconcerns, h.method]
  exact
    { intercepts := hintercepts
      takesUp := by rw [Engine.takesUp, Engine.takesUp, h.method, hintercepts, h.body]
      passed := hpassed
      silent := fun hmode σ s w reply hreply => by
        refine ⟨fun hpass => ?_, fun q _ => ?_⟩
        · rw [(hpassed s w).2 hpass] at hreply
          cases hreply
        · -- a simulation forwards nothing, whatever it is asked
          exact (answer_course e s.outside q w).forwards.2 (.inl hmode)
      replayed := fun hmode hplain σ s w =>
        ⟨congrFun (handle_of_respelled h hconcerns hmode hplain s) w,
          handle_world hmode hplain s r' w⟩ }

/-- **One host in several spellings.** Take two requests of clients that differ in nothing but
the case of letters in the authority that they name. They have one key, and one leaf is served
for their hosts. If the pattern of an engine ignores case, the engine decides alike about them. -/
theorem spelled_alike (h : r.Respelled r') :
    r.request.map Request.key = r'.request.map Request.key ∧
      (∀ (i : Issuance) now, r.uri.host?.map (i.serve · now) = r'.uri.host?.map (i.serve · now)) ∧
      ∀ e : Engine, e.pattern.ignoresCase = true → e.DecidesAlike r r' := by
  refine ⟨h.key, h.leaf, fun e hpattern => decidesAlike h ?_⟩
  -- a pattern that ignores case may as well be asked about the host in small letters
  have hconcerns : ∀ host, e.concerns host = e.concerns (Ascii.lower host) := fun host =>
    Regex.isMatch_congr hpattern (Ascii.lower_lower host).symm
  have hlower : ∀ host? : Option String,
      host?.map e.concerns = (host?.map Ascii.lower).map e.concerns := fun host? => by
    rw [Option.map_map]
    exact congrArg (Option.map · host?) (funext hconcerns)
  rw [hlower, h.hosts, ← hlower]

/-- A client's request for the root of a host. -/
def rootOf (host : String) : ClientRequest where
  method := "GET"
  uri := ⟨some "http", some host, "/", none⟩
  headers := []
  body := .ok []

theorem respelled_rootOf {host host' : String} (h : Ascii.lower host = Ascii.lower host') :
    (rootOf host).Respelled (rootOf host') :=
  ⟨rfl, rfl, congrArg some h, rfl, rfl, rfl, rfl⟩

/-- With the pattern of all hosts, an engine decides alike about `a.test:443` and
`A.Test:443`. -/
theorem spelled_alike_everywhere :
    ∃ pattern, Regex.parse "." = .ok pattern ∧
      (rootOf "a.test:443").request.map Request.key =
        (rootOf "A.Test:443").request.map Request.key ∧
      DecidesAlike { recorder with pattern } (rootOf "a.test:443") (rootOf "A.Test:443") := by
  obtain ⟨pattern, hparse, hignores⟩ : ∃ pattern, Regex.parse "." = .ok pattern ∧
      pattern.ignoresCase = true := exists_of_map_toOption (by decide +kernel)
  have hrespelled : (rootOf "a.test:443").Respelled (rootOf "A.Test:443") :=
    respelled_rootOf (by simp [← String.toList_inj])
  have halike := spelled_alike hrespelled
  exact ⟨pattern, hparse, halike.1, halike.2.2 { recorder with pattern } hignores⟩

/-- An engine that replays one exchange, for the hosts of a pattern. -/
def replaying (pattern : Regex) (x : Exchange) : Engine :=
  { recorder with
    mode := .simulate
    pattern
    requests := { backing := .memory (Std.ExtTreeMap.insert ∅ x.request.key x.encode) } }

/-- A request is replayed when its host is spelled as in the pattern. With a large letter in the
host it has the same key, but it is passed on, and its traffic is not looked into. -/
theorem spelling_decides :
    ∃ (pattern : Regex) (q : Request), Regex.parse "a\\.test" = .ok pattern ∧
      (rootOf "a.test").request = .ok q ∧
      (rootOf "A.test").request.map Request.key = .ok q.key ∧
      let e := replaying pattern { request := q, response := { status := 200 } }
      e.intercepts (rootOf "a.test").uri = true ∧ e.intercepts (rootOf "A.test").uri = false ∧
        ∀ {σ : Type} (s : Surroundings σ) (w : σ),
          (e.handle s (rootOf "a.test") w).1.1 = .answered (.ofResponse { status := 200 }) ∧
            (e.handle s (rootOf "A.test") w).1.1 = .passed := by
  obtain ⟨pattern, hparse, hmatches⟩ : ∃ pattern, Regex.parse "a\\.test" = .ok pattern ∧
      (pattern.isMatch "a.test", pattern.isMatch "A.test") = (true, false) :=
    exists_of_map_toOption (by decide +kernel)
  obtain ⟨hsmall, hlarge⟩ := Prod.mk.inj hmatches
  have hhost : (rootOf "a.test").uri.host? = some "a.test" := by decide +kernel
  have hhost' : (rootOf "A.test").uri.host? = some "A.test" := by decide +kernel
  have hrespelled : (rootOf "a.test").Respelled (rootOf "A.test") :=
    respelled_rootOf (by simp [← String.toList_inj])
  have hkey := hrespelled.key
  obtain ⟨q, hq⟩ : ∃ q, (rootOf "a.test").request = .ok q :=
    ClientRequest.exists_request (by rw [hhost]; rfl) rfl
  rw [hq] at hkey
  refine ⟨pattern, q, hparse, hq, hkey.symm, ?_⟩
  intro e
  have hconcerns : e.concerns "a.test" = true := hsmall
  have hconcerns' : e.concerns "A.test" = false := hlarge
  refine ⟨?_, ?_, fun s w => ⟨?_, ?_⟩⟩
  · rw [intercepts, hhost]
    exact hconcerns
  · rw [intercepts, hhost']
    exact hconcerns'
  · -- the exchange that is held is found, and its response is the reply
    have hsound : e.requests.Sound := fun _ => rfl
    have hget : e.requests.backing.get? q.key =
        some (Exchange.encode ⟨q, { status := 200 }, none⟩) :=
      Std.ExtTreeMap.getElem?_insert_self
    have hlookup : e.lookup q.key = .ok (Exchange.canonical ⟨q, { status := 200 }, none⟩) := by
      rw [lookup_of_sound hsound, hget]
      simp only [Exchange.decode_encode_eq]
    have hresponse : (e.process s q w).1.1 = { status := 200 } := by
      rw [(process_simulate rfl s q w).1, simulate_of_lookup rfl hlookup]
      exact congrArg (Response.mk 200 []) (Headers.canonical_eq_self Headers.canonical_empty)
    rw [← hresponse]
    unfold handle
    rw [if_neg (by decide), hhost]
    simp only [hconcerns, hq]
    rfl
  · exact (handle_passed_iff e s _ w).2 (.inr ⟨_, hhost', hconcerns'⟩)

end Engine

end ReplayProxy
