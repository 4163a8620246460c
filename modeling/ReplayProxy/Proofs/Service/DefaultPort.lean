import ReplayProxy.Proofs.Fingerprint.Framing
import ReplayProxy.Proofs.Http.Ports
import ReplayProxy.Proofs.Service.HostCase

/-!
# The port of a scheme

A client may name the port that its scheme has by itself, or leave it out. Either way the same host
is asked, and both requests should have one record. So the port is dropped from the destination
under which a request is recorded; with any other port the authority is recorded as it is.

What is recorded then is the host alone. That is the authority without the port only if the
authority has nothing besides (`Http.Uri.Bare`). User information is lost with the port, but stays
without one; so such an authority has two records.

A request sees its authority only as a destination, and an engine sees no more of it than the
request and the host (`ClientRequest.request_toward_congr`, `ClientRequest.handle_toward_congr`), so
all that is said about records is said about destinations first.

Main statements:

* `ClientRequest.default_port_dropped`: what is recorded with a port and without one, and when that
  is the same.
* `ClientRequest.user_information_dropped`: two requests for the host `a` on behalf of one user that
  do not find each other's record.
-/

namespace ReplayProxy.ClientRequest

open Http.Uri

/-! ### Destinations -/

/-- The port that a scheme of the web has by itself. -/
def ownPort? (scheme : String) : Option UInt16 :=
  if scheme = "http" then some 80 else if scheme = "https" then some 443 else none

variable {scheme a : String} {d : UInt16}

theorem ownPort?_eq_some_iff :
    ownPort? scheme = some d ↔ (scheme = "https" ∧ d = 443) ∨ (scheme = "http" ∧ d = 80) := by
  unfold ownPort?
  split
  · next hscheme => simp [hscheme, eq_comm]
  · next hscheme => simp [hscheme, eq_comm]

/-- A scheme's own port is dropped, and the user information with it. -/
theorem destination_of_own (hd : ownPort? scheme = some d) (hport : portOf? a = some d) :
    destination scheme a = hostOf a := by
  have hown := ownPort?_eq_some_iff.1 hd
  rw [destination, hport]
  exact if_pos (by simpa using hown)

/-- Any other port stays, and so does all that is no port. -/
theorem destination_of_other (hd : ownPort? scheme = some d) (hport : portOf? a ≠ some d) :
    destination scheme a = a := by
  unfold destination
  split
  · next port hread =>
    -- a port that is dropped is the one of the scheme
    refine if_neg ?_
    intro hdrops
    have hown : ownPort? scheme = some port := ownPort?_eq_some_iff.2 (by simpa using hdrops)
    exact hport (by rw [hread, ← hd, hown])
  · rfl

/-- The request with another authority. -/
def toward (c : ClientRequest) (authority : String) : ClientRequest :=
  { c with uri := { c.uri with authority := some authority } }

theorem destination_of_request_toward {c : ClientRequest} {r : Request}
    (h : (c.toward a).request = .ok r) :
    r.destination = destination (c.uri.scheme.getD "http") a := by
  obtain ⟨authority, body, hauthority, -, rfl⟩ := request_eq_ok h
  obtain rfl : a = authority := Option.some.inj hauthority
  rfl

theorem request_toward_congr (c : ClientRequest) {a b : String}
    (h : destination (c.uri.scheme.getD "http") a = destination (c.uri.scheme.getD "http") b) :
    (c.toward a).request = (c.toward b).request := by
  cases hbody : c.body with
  | error reason =>
    rw [request_of_body_error (r := c.toward a) rfl hbody,
      request_of_body_error (r := c.toward b) rfl hbody]
  | ok body =>
    rw [request_of_body (r := c.toward a) rfl hbody, request_of_body (r := c.toward b) rfl hbody]
    have hsame : destination ((c.toward a).uri.scheme.getD "http") a =
        destination ((c.toward b).uri.scheme.getD "http") b := h
    rw [hsame]
    rfl

theorem handle_toward_congr {σ : Type} (e : Engine) (s : Surroundings σ) (c : ClientRequest)
    {a b : String} (hhost : hostOf a = hostOf b)
    (hrequest : (c.toward a).request = (c.toward b).request) :
    e.handle s (c.toward a) = e.handle s (c.toward b) := by
  -- an engine sees of the authority only its host and the request that is read
  have hhosts : (c.toward a).uri.host? = (c.toward b).uri.host? := congrArg some hhost
  have hmethod : (c.toward a).method = (c.toward b).method := rfl
  rw [Engine.handle, Engine.handle, hmethod, hhosts, hrequest]

/-! ### With the port and without -/

/-- What becomes of an authority without a port, when the port of the scheme is written to it. -/
structure DropsPort (scheme : String) (d : UInt16) (a : String) : Prop where
  /-- It is an authority still. -/
  accepted : authority? (withPort a d.toNat) = some (withPort a d.toNat)
  without : destination scheme a = a
  dropped : destination scheme (withPort a d.toNat) = hostOf a
  /-- Both have one destination if there is nothing besides the host. -/
  merged : destination scheme (withPort a d.toNat) = destination scheme a ↔ Bare a.toList
  /-- Then both requests are the same to any engine, and they have one key. -/
  alike : Bare a.toList → ∀ c : ClientRequest, c.uri.scheme.getD "http" = scheme →
    (c.toward (withPort a d.toNat)).request.map Request.key =
        (c.toward a).request.map Request.key ∧
      ∀ {σ : Type} (e : Engine) (s : Surroundings σ),
        e.handle s (c.toward (withPort a d.toNat)) = e.handle s (c.toward a)
  /-- Otherwise something else is hashed for each of them. -/
  apart : ¬Bare a.toList → ∀ (c : ClientRequest) (q q' : Request),
    c.uri.scheme.getD "http" = scheme → (c.toward (withPort a d.toNat)).request = .ok q →
      (c.toward a).request = .ok q' → ¬Fingerprint.SameParts q q'
  other : ∀ port : Nat, port ≠ d.toNat →
    destination scheme (withPort a port) = withPort a port

/-- **The port of a scheme is dropped.** To an authority without a port, the port of the scheme can
be written. What is recorded is the authority as it is without the port, and its host with it;
these are the same if and only if the authority is its host. Then the two requests have one key and
are handled alike, and otherwise something else is hashed for each of them. Any other port is
recorded. -/
theorem default_port_dropped (hd : ownPort? scheme = some d) (ha : authority? a = some a)
    (hport : Portless a) : DropsPort scheme d a := by
  have hwritten : portOf? (withPort a d.toNat) = some d := by
    rw [portOf?_withPort, if_pos (Nat.le_of_lt_succ d.toNat_lt), UInt16.ofNat_toNat]
  -- without a port nothing is dropped, and with the scheme's own only the host is kept
  have hwithout : destination scheme a = a := by
    refine destination_of_other hd ?_
    rw [portOf?_of_portless hport]
    exact nofun
  have hhost : hostOf (withPort a d.toNat) = hostOf a := hostOf_withPort ha d.toNat
  have hdropped : destination scheme (withPort a d.toNat) = hostOf a := by
    rw [destination_of_own hd hwritten, hhost]
  have hmerged : destination scheme (withPort a d.toNat) = destination scheme a ↔
      Bare a.toList := by
    rw [hdropped, hwithout, hostOf_eq_self_iff]
  refine
    { accepted := (authority?_withPort_iff ha d.toNat).2 hport
      without := hwithout
      dropped := hdropped
      merged := hmerged
      alike := ?_
      apart := ?_
      other := ?_ }
  · rintro hbare c rfl
    have hrequest := request_toward_congr c (hmerged.2 hbare)
    refine ⟨by rw [hrequest], ?_⟩
    intro σ e s
    exact handle_toward_congr e s c hhost hrequest
  · -- requests alike have destinations alike, but only a bare authority is its own host
    rintro hmore c q q' rfl hq hq' hsame
    refine hmore (lower_hostOf_eq_iff.1 ?_)
    calc Ascii.lower (hostOf a)
      _ = Ascii.lower q.destination := by rw [destination_of_request_toward hq, hdropped]
      _ = Ascii.lower q'.destination := hsame.destination
      _ = Ascii.lower a := by rw [destination_of_request_toward hq', hwithout]
  · -- another port is not the scheme's, or does not fit and is no port
    intro port hne
    refine destination_of_other hd ?_
    rw [portOf?_withPort]
    split
    · next hsmall =>
      intro hsame
      have hnat := congrArg UInt16.toNat (Option.some.inj hsame)
      rw [UInt16.toNat_ofNat_of_lt' (Nat.lt_succ_of_le hsmall)] at hnat
      exact hne hnat
    · exact nofun

/-- An address in brackets has one record with the port of its scheme and without it, and another
one with the port of the other scheme. -/
theorem default_port_dropped_address :
    ownPort? "https" = some 443 ∧ authority? "[::1]" = some "[::1]" ∧ Portless "[::1]" ∧
      Bare "[::1]".toList ∧ destination "https" "[::1]:443" = "[::1]" ∧
      destination "https" "[::1]:80" = "[::1]:80" := by
  have haccepted : authority? "[::1]" = some "[::1]" := by decide +kernel
  have hdrops : DropsPort "https" 443 "[::1]" :=
    default_port_dropped rfl haccepted (by decide +kernel)
  have hbare : Bare "[::1]".toList :=
    ⟨by decide, .inr ⟨[':', ':', '1'], rfl, by decide⟩⟩
  refine ⟨rfl, haccepted, by decide +kernel, hbare, ?_, hdrops.other 80 (by decide)⟩
  rw [← hdrops.without]
  exact hdrops.merged.2 hbare

/-- What is hashed for the root of a host is its destination, and nothing else that differs. -/
theorem parts_rootOf {authority : String} {r : Request}
    (hr : (Engine.rootOf authority).request = .ok r) :
    Fingerprint.parts r =
      [Bytes.ofText (Ascii.lower (destination "http" authority)), Bytes.ofText "/",
        Bytes.ofText "GET", Bytes.ofText "", []] := by
  rw [request_of_body (r := Engine.rootOf authority) rfl rfl] at hr
  cases hr
  rw [Fingerprint.parts]
  -- an empty query has no segments
  show [_, _, _, Bytes.ofText (Fingerprint.normalQuery ""), _] = _
  rw [Fingerprint.normalQuery_empty]
  rfl

/-- User information in front of the host is recorded without the port, and lost with it: a request
for `user@a:80` does not find what was recorded for `user@a`. -/
theorem user_information_dropped :
    ownPort? "http" = some 80 ∧ authority? "user@a" = some "user@a" ∧ Portless "user@a" ∧
      withPort "user@a" 80 = "user@a:80" ∧ destination "http" "user@a" = "user@a" ∧
      destination "http" "user@a:80" = "a" ∧
      (Engine.rootOf "user@a").request.map Request.key ≠
        (Engine.rootOf "user@a:80").request.map Request.key := by
  have hwithout : destination "http" "user@a" = "user@a" := by decide +kernel
  have hdropped : destination "http" "user@a:80" = "a" := by decide +kernel
  refine ⟨rfl, by decide +kernel, by decide +kernel, rfl, hwithout, hdropped, ?_⟩
  obtain ⟨q, hq⟩ : ∃ q, (Engine.rootOf "user@a").request = .ok q :=
    ⟨_, request_of_body rfl rfl⟩
  obtain ⟨q', hq'⟩ : ∃ q', (Engine.rootOf "user@a:80").request = .ok q' :=
    ⟨_, request_of_body rfl rfl⟩
  have hsmall : Ascii.lower "user@a" = "user@a" := by
    rw [← String.toList_inj, Ascii.toList_lower]
    rfl
  have hsmall' : Ascii.lower "a" = "a" := by
    rw [← String.toList_inj, Ascii.toList_lower]
    rfl
  -- the keys are digests, so they are compared by evaluating the two fingerprints
  rw [hq, hq']
  intro hsame
  have hkey : q.key = q'.key := Except.ok.inj hsame
  rw [Request.key, Request.key, Request.fingerprint, Request.fingerprint, Fingerprint.preimage,
    Fingerprint.preimage, parts_rootOf hq, parts_rootOf hq', hwithout, hdropped, hsmall,
    hsmall'] at hkey
  have hfingerprint := Bytes.ofText_injective hkey
  revert hfingerprint
  decide +kernel

end ReplayProxy.ClientRequest
