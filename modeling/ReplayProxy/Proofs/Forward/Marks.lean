import ReplayProxy.Proofs.Engine.Answers
import ReplayProxy.Proofs.Forward.Contact
import ReplayProxy.Proofs.Service.Replies

/-!
# The mark of a forwarded response

Every response that comes from a destination carries one mark, the header `Understudy: Was-Here`,
and is the reply of the destination otherwise (`Forward.Marked`). The destination may be another
proxy, or may send headers of that name for reasons of its own, in any spelling and any number:
whatever there was under the name of the mark is dropped before the mark is set. That works because
the headers of a response are canonical when the name is looked up.

So a mark does not pile up when proxies ask one another (`Forward.Relayed`). The reply of a proxy is
written from a response without the headers of the connection, carried to the next proxy, and read
there. One such hop keeps what the hops before it have kept (`Forward.Marked.hop`), provided that
the first reply can be written at all; the whole chain follows by induction.

Main statement:

* `Forward.relayed_marked`: a forwarded response is the reply with one mark, and so is a response
  that was forwarded any number of times.
-/

namespace ReplayProxy

/-- The values under a name are text, and reading them loses nothing. -/
def Incoming.Readable (incoming : Incoming) (name : String) : Prop :=
  ∀ value ∈ namedValues name incoming.headers, value.isText = true

/-- HTTP can carry the reply on: its status, and every header that does not belong to the
connection. -/
structure Incoming.Carriable (incoming : Incoming) : Prop where
  status : 100 ≤ incoming.status ∧ incoming.status ≤ 999
  headers : ∀ h ∈ incoming.headers, Http.isHopByHop h.1 = false →
    Http.isName h.1 = true ∧ Http.isValue h.2 = true ∧ h.2.isText = true

namespace Forward

variable {settings : ForwardSettings} {r : Request} {out : Outgoing} {incoming : Incoming}
  {response : Response}

/-! ### One proxy -/

/-- The response is the reply with one mark, as far as the names with `p` are concerned. -/
structure Marked (p : String → Prop) (incoming : Incoming) (response : Response) : Prop where
  status : response.status = incoming.status
  body : incoming.body = .ok response.body
  values : ∀ name, p name → Ascii.sameLetters markName name = false →
    (response.headers.values name).map Bytes.ofText = namedValues name incoming.headers
  /-- There is one mark, in whatever spelling one asks for it. -/
  mark : ∀ name, Ascii.sameLetters markName name = true →
    response.headers.values name = [markValue]
  canonical : response.headers.Canonical

/-- The values of a response that was forwarded. -/
theorem values_response (incoming : Incoming) (body : Bytes) (name : String) :
    (Forward.response incoming body).headers.values name =
      if Ascii.sameLetters markName name then [markValue]
      else (namedValues name incoming.headers).map Utf8.lossy := by
  have hname : Headers.canonicalName markName = markName := by decide +kernel
  have hcanonical := Headers.canonical_ofPairs (incoming.headers.map fun h => (h.1, Utf8.lossy h.2))
  show (Headers.add (Std.ExtTreeMap.erase _ markName) markName markValue).values name = _
  rw [Headers.add, (hcanonical.erase markName).values_addAll, hcanonical.values_erase hname,
    Headers.values_ofPairs_lossy]
  -- what was there under the name of the mark is gone before the mark is added
  split
  · rfl
  · exact List.append_nil _

theorem marked_response {body : Bytes} (hbody : incoming.body = .ok body) :
    Marked incoming.Readable incoming (Forward.response incoming body) where
  status := rfl
  body := hbody
  values := by
    intro name hreadable hother
    rw [values_response, hother, if_neg Bool.false_ne_true, Headers.map_ofText_lossy hreadable]
  mark := by
    intro name hsame
    rw [values_response, if_pos hsame]
  canonical := ((Headers.canonical_ofPairs _).erase markName).add markName markValue

/-- A reply that was read to its end is forwarded, whatever it is. -/
theorem forward_of_reply {σ : Type} {s : Surroundings σ} {w : σ} {body : Bytes}
    (hout : outgoing settings r = .ok out) (hsend : (s.send out w).1 = .reply incoming)
    (hbody : incoming.body = .ok body) :
    (forward settings s r w).1 = .ok (Forward.response incoming body) := by
  unfold forward
  simp only [hout, bind_apply, hsend, hbody]
  rfl

/-- Some proxy that asked for something was replied `incoming`, and this is the response that it
forwarded. -/
def Forwards (incoming : Incoming) (response : Response) : Prop :=
  ∃ (σ : Type) (settings : ForwardSettings) (s : Surroundings σ) (r : Request) (w : σ)
    (out : Outgoing), outgoing settings r = .ok out ∧ (s.send out w).1 = .reply incoming ∧
      (forward settings s r w).1 = .ok response

theorem marked_of_forwards (h : Forwards incoming response) :
    Marked incoming.Readable incoming response := by
  obtain ⟨σ, settings, s, r, w, out, hout, hsend, hforward⟩ := h
  cases hbody : incoming.body with
  | error reason =>
    -- a body that breaks off is no response
    unfold forward at hforward
    simp only [hout, bind_apply, hsend, hbody] at hforward
    cases hforward
  | ok body =>
    rw [forward_of_reply hout hsend hbody] at hforward
    cases hforward
    exact marked_response hbody

/-! ### Proxies that ask one another -/

/-- A reply as whoever asked for it receives it: the connection may add headers of its own, and
may spell the names as it likes. -/
structure Carried (reply : Reply) (incoming : Incoming) : Prop where
  status : incoming.status = reply.status
  body : incoming.body = .ok reply.body
  headers : ∀ name, Http.isHopByHop name = false →
    namedValues name incoming.headers = (namedValues name reply.headers).map Bytes.ofText

/-- A response that one proxy after another has forwarded, the first of which was replied
`first`. -/
inductive Relayed (first : Incoming) : Response → Prop
  | origin {response : Response} (h : Forwards first response) : Relayed first response
  | hop {response response' : Response} {incoming : Incoming} (h : Relayed first response)
      (hcarried : Carried (.ofResponse response) incoming) (hnext : Forwards incoming response') :
      Relayed first response'

/-- The headers that are passed on, whichever proxy looks at them. -/
abbrev Passes (name : String) : Prop := Http.isHopByHop name = false

/-- A header that comes from the first reply, or is the mark, can be carried on. -/
theorem Marked.writable {first : Incoming} (h : Marked Passes first response)
    (hfirst : first.Carriable) : response.Writable where
  status := h.status ▸ hfirst.status
  headers := by
    intro name values hget hpasses value hvalue
    have hmem : name ∈ response.headers := by
      rw [Std.ExtTreeMap.mem_iff_isSome_getElem?, hget]
      rfl
    have hvalues : response.headers.values name = values := by
      rw [h.canonical.values, h.canonical name hmem, hget]
      rfl
    rw [← hvalues] at hvalue
    -- the mark is legal, and any other value came with the first reply
    by_cases hmark : Ascii.sameLetters markName name = true
    · rw [h.mark name hmark, List.mem_singleton] at hvalue
      have hname : Http.isName name = Http.isName markName :=
        Http.isName_congr (Ascii.sameLetters_iff.1 hmark).symm
      show Http.isName name = true ∧ Http.isValue (Bytes.ofText value) = true
      rw [hname, hvalue]
      decide +kernel
    · -- the first reply had the value under some spelling of the name
      have hcame : Bytes.ofText value ∈ namedValues name first.headers := by
        rw [← h.values name hpasses (Bool.eq_false_iff.2 hmark)]
        exact List.mem_map_of_mem hvalue
      obtain ⟨header, hheader, heq⟩ := List.mem_map.1 hcame
      obtain ⟨hheader, hletters⟩ := List.mem_filter.1 hheader
      have hlower := Ascii.sameLetters_iff.1 hletters
      obtain ⟨hname, hlegal, -⟩ :=
        hfirst.headers header hheader ((Http.isHopByHop_congr hlower).trans hpasses)
      exact ⟨(Http.isName_congr hlower).symm.trans hname, heq ▸ hlegal⟩

/-- What was kept by the proxies before is kept by the next one. -/
theorem Marked.hop {first : Incoming} {response' : Response} (h : Marked Passes first response)
    (hfirst : first.Carriable) (hcarried : Carried (.ofResponse response) incoming)
    (hnext : Forwards incoming response') : Marked Passes first response' := by
  obtain ⟨hstatus, hbody, hwritten⟩ :=
    (Reply.renders_ofResponse h.canonical).written (h.writable hfirst)
  have hforwarded := marked_of_forwards hnext
  -- what is carried is what the proxy wrote, name by name
  have hreceived : ∀ name, Passes name →
      namedValues name incoming.headers = (response.headers.values name).map Bytes.ofText := by
    intro name hpasses
    rw [hcarried.headers name hpasses, hwritten name hpasses]
  refine
    { status := ?_
      body := ?_
      values := ?_
      mark := hforwarded.mark
      canonical := hforwarded.canonical }
  · calc response'.status
      _ = incoming.status := hforwarded.status
      _ = (Reply.ofResponse response).status := hcarried.status
      _ = response.status := hstatus
      _ = first.status := h.status
  · have hsame : response'.body = response.body := by
      rw [← hbody]
      exact Except.ok.inj (hforwarded.body.symm.trans hcarried.body)
    rw [hsame]
    exact h.body
  · intro name hpasses hother
    -- what a reply holds was text before it was written
    have hreadable : incoming.Readable name := by
      intro value hvalue
      rw [hreceived name hpasses] at hvalue
      obtain ⟨text, -, rfl⟩ := List.mem_map.1 hvalue
      simp [Bytes.isText]
    calc (response'.headers.values name).map Bytes.ofText
      _ = namedValues name incoming.headers := hforwarded.values name hreadable hother
      _ = (response.headers.values name).map Bytes.ofText := hreceived name hpasses
      _ = namedValues name first.headers := h.values name hpasses hother

theorem Relayed.marked {first : Incoming} (h : Relayed first response)
    (hfirst : first.Carriable) : Marked Passes first response := by
  induction h with
  | origin hforwards =>
    have hmarked := marked_of_forwards hforwards
    refine { hmarked with values := fun name hpasses hother => hmarked.values name ?_ hother }
    intro value hvalue
    obtain ⟨header, hheader, rfl⟩ := List.mem_map.1 hvalue
    obtain ⟨hheader, hletters⟩ := List.mem_filter.1 hheader
    have hhop := Http.isHopByHop_congr (Ascii.sameLetters_iff.1 hletters)
    exact (hfirst.headers header hheader (hhop.trans hpasses)).2.2
  | hop _ hcarried hnext ih => exact ih.hop hfirst hcarried hnext

/-- Even if what came first cannot be carried on, and all is lost but the mark, there is one. -/
theorem Relayed.mark {first : Incoming} (h : Relayed first response) (name : String)
    (hname : Ascii.sameLetters markName name = true) :
    response.headers.values name = [markValue] := by
  cases h with
  | origin hforwards => exact (marked_of_forwards hforwards).mark name hname
  | hop _ _ hnext => exact (marked_of_forwards hnext).mark name hname

/-- **Forwarded responses carry one mark.**

* A reply that comes to an end is forwarded with its status, its body and, under each name but that
  of the mark, all its values in order. Under the name of the mark there is one value, whatever the
  reply had there.
* So it is however many proxies a response comes through. If HTTP can carry the first reply on, the
  last response still is that reply with one mark; the headers of the connections apart. -/
theorem relayed_marked :
    (∀ {σ : Type} (settings : ForwardSettings) (s : Surroundings σ) (r : Request) (w : σ)
        (out : Outgoing) (incoming : Incoming) (body : Bytes),
      outgoing settings r = .ok out → (s.send out w).1 = .reply incoming →
        incoming.body = .ok body →
          ∃ response, (forward settings s r w).1 = .ok response ∧
            Marked incoming.Readable incoming response) ∧
    ∀ (first : Incoming) (response : Response), Relayed first response →
      (∀ name, Ascii.sameLetters markName name = true →
        response.headers.values name = [markValue]) ∧
      (first.Carriable → Marked Passes first response) := by
  refine ⟨?_, fun first response h => ⟨h.mark, h.marked⟩⟩
  intro σ settings s r w out incoming body hout hsend hbody
  exact ⟨_, forward_of_reply hout hsend hbody, marked_response hbody⟩

/-- A reply that somebody has marked already, more than once. -/
def remarked : Incoming where
  status := 404
  headers := [("understudy", Bytes.ofText "elsewhere"), ("X-Tag", [0x31]),
    ("UNDERSTUDY", Bytes.ofText "Was-Here"), ("x-tag", [0x32]), ("Connection", [0x0A])]
  body := .ok [0xFF]

/-- A request to the host `a`. -/
def asked : Request where
  method := "GET"
  destination := "a"

/-- A world in which everybody replies the same. -/
def echoing (incoming : Incoming) : Surroundings Unit :=
  { silence with send := fun _ => pure (.reply incoming) }

/-- A reply that the connection leaves as it is. -/
def received (reply : Reply) : Incoming where
  status := reply.status
  headers := reply.headers.map fun header => (header.1, Bytes.ofText header.2)
  body := .ok reply.body

theorem carried_received (reply : Reply) : Carried reply (received reply) :=
  ⟨rfl, rfl, fun _ _ => namedValues_map Bytes.ofText reply.headers⟩

/-- Behind two proxies there is one mark, and all values of the other header. -/
theorem relayed_marked_twice :
    remarked.Carriable ∧ ∃ response, Relayed remarked response ∧ response.status = 404 ∧
      response.headers.values "UnderStudy" = ["Was-Here"] ∧
      (response.headers.values "x-tag").map Bytes.ofText = [[0x31], [0x32]] := by
  obtain ⟨out, hout, -⟩ : ∃ out, outgoing {} asked = .ok out ∧ out.method = "GET" :=
    exists_of_map_toOption (by decide +kernel)
  obtain ⟨hforward, hrelayed⟩ := relayed_marked
  -- in surroundings that reply with the given response, any proxy forwards it
  have hproxy : ∀ incoming body, incoming.body = .ok body →
      ∃ response, Forwards incoming response := by
    intro incoming body hbody
    obtain ⟨response, hresponse, -⟩ :=
      hforward {} (echoing incoming) asked () out incoming body hout rfl hbody
    exact ⟨response, Unit, {}, echoing incoming, asked, (), out, hout, rfl, hresponse⟩
  obtain ⟨first, hfirst⟩ := hproxy remarked [0xFF] rfl
  obtain ⟨second, hsecond⟩ := hproxy (received (.ofResponse first)) _ rfl
  have hchain : Relayed remarked second := .hop (.origin hfirst) (carried_received _) hsecond
  have hcarriable : remarked.Carriable := by
    refine ⟨by decide, ?_⟩
    simp only [Http.isHopByHop, Ascii.sameLetters_eq]
    decide +kernel
  obtain ⟨hmark, hkept⟩ := hrelayed remarked second hchain
  have hmarkname : Ascii.sameLetters markName "UnderStudy" = true := by
    rw [Ascii.sameLetters_eq]
    decide +kernel
  have hother : Ascii.sameLetters markName "x-tag" = false := by
    rw [Ascii.sameLetters_eq]
    decide +kernel
  refine ⟨hcarriable, second, hchain, (hkept hcarriable).status, hmark "UnderStudy" hmarkname, ?_⟩
  rw [(hkept hcarriable).values "x-tag" (by decide +kernel) hother]
  simp only [namedValues, Ascii.sameLetters_eq]
  decide +kernel

end Forward

end ReplayProxy
