import ReplayProxy.Handling
import ReplayProxy.Proofs.Forward.Sending
import ReplayProxy.Proofs.Http.Target
import ReplayProxy.Proofs.Service.Events
import ReplayProxy.Proofs.Url.Splitting

/-!
# Who is contacted

A request names its destination, and its URL is put together from the scheme, the destination, the
path and the query. Whoever sends the request takes the URL apart again. The host that is
contacted then is the destination if the parts are *bounded* (`Request.Bounded`): there is no colon
in the scheme, and the path does not go on where the destination ends. A client's request is so
(`ClientRequest.bounded_of_request`); what a transform makes of a request need not be.

Hosts are names in ASCII and addresses, as `Url.host?` reads them. A name with other characters
is no host here, so a request for one goes nowhere; nothing is said of names that are mapped to
ASCII first.

Main statements:

* `Forward.contacts_destination`: whatever path and query are, a bounded request goes to the host
  and the port of its destination, or nowhere.
* `Forward.path_redirects`: a request that is not bounded goes to the host that its path names.
-/

namespace ReplayProxy

namespace Request

/-- The scheme and the path keep to themselves when the URL is put together. -/
structure Bounded (r : Request) : Prop where
  scheme : ∀ c ∈ r.scheme.toList, c ≠ ':'
  /-- A path begins, apart from what is dropped of it, with something that ends an authority. -/
  path : ∀ c ∈ (r.path.toList.filter Url.isKept).head?, Url.endsAuthority c = true

/-- The scheme that the URL begins with. -/
def urlScheme (r : Request) : List Char :=
  if r.scheme.isEmpty then "http".toList else r.scheme.toList

/-- What the URL ends with. -/
def urlQuery (r : Request) : List Char := if r.query.isEmpty then [] else '?' :: r.query.toList

theorem toList_url (r : Request) :
    r.url.toList =
      r.urlScheme ++ (':' :: '/' :: '/' :: r.destination.toList) ++
        (r.path.toList ++ r.urlQuery) := by
  unfold url urlScheme urlQuery
  split <;> split <;> simp

/-- A part of a text that begins as it should begins so as well. -/
theorem forall_head?_of_prefix {p : Char → Prop} {cs ds : List Char} (h : cs <+: ds)
    (hds : ∀ c ∈ ds.head?, p c) : ∀ c ∈ cs.head?, p c := by
  obtain ⟨rest, rfl⟩ := h
  cases cs with
  | nil => nofun
  | cons c cs => exact hds

/-- What is left of the scheme when the URL is cleaned. -/
def cleanScheme (r : Request) : List Char := (r.urlScheme.dropWhile Url.isOuter).filter Url.isKept

/-- What is left of the path and the query. -/
def cleanTarget (r : Request) : List Char :=
  ((r.path.toList ++ r.urlQuery).rdropWhile Url.isOuter).filter Url.isKept

theorem clean_url {r : Request} (hdestination : ∀ c ∈ r.destination.toList, Url.Solid c) :
    Url.clean r.url.toList =
      r.cleanScheme ++ ':' :: (['/', '/'] ++ (r.destination.toList ++ r.cleanTarget)) := by
  have hsolid : ∀ c ∈ ':' :: '/' :: '/' :: r.destination.toList, Url.Solid c := by
    simp only [List.forall_mem_cons]
    exact ⟨by decide, by decide, by decide, hdestination⟩
  have hclean := Url.clean_append (List.cons_ne_nil _ _) hsolid r.urlScheme
    (r.path.toList ++ r.urlQuery)
  rw [← toList_url, List.append_assoc] at hclean
  exact hclean

/-- Cleaning adds no colon to a scheme. -/
theorem Bounded.ne_of_mem_cleanScheme {r : Request} (h : r.Bounded) :
    ∀ c ∈ r.cleanScheme, c ≠ ':' := by
  intro c hc
  have hmem : c ∈ r.urlScheme :=
    (List.dropWhile_sublist Url.isOuter).subset (List.mem_of_mem_filter hc)
  have hhttp : ∀ c ∈ "http".toList, c ≠ ':' := Ascii.forall_mem_of_all (by decide)
  unfold urlScheme at hmem
  split at hmem
  · exact hhttp c hmem
  · exact h.scheme c hmem

/-- What is read off the URL of a bounded request. -/
theorem Bounded.parts {r : Request} (h : r.Bounded) (hne : r.destination.toList ≠ [])
    (hdestination : ∀ c ∈ r.destination.toList, Url.Solid c ∧ Url.endsAuthority c = false)
    {u : Url} (hu : Url.parse? r.url = some u) :
    Url.Parts r.cleanScheme r.destination.toList r.cleanTarget u := by
  -- the authority is the destination: it begins behind the slashes and ends where the path begins
  refine Url.parts_of_parse? (clean_url fun c hc => (hdestination c hc).1) h.ne_of_mem_cleanScheme
    (Ascii.forall_mem_of_all (by decide)) ?_ (fun c hc => (hdestination c hc).2) ?_ hu
  · obtain ⟨c, cs, hcs⟩ := List.exists_cons_of_ne_nil hne
    rw [hcs] at hdestination ⊢
    exact fun k hk => Url.isSlash_of_endsAuthority (hdestination k (Option.some.inj hk ▸ by simp)).2
  · have hprefix := (List.rdropWhile_prefix Url.isOuter
      (r.path.toList ++ r.urlQuery)).filter Url.isKept
    refine forall_head?_of_prefix hprefix fun c hc => ?_
    -- what is left of the path comes first, and then the question mark of the query
    rw [List.filter_append] at hc
    cases hpath : r.path.toList.filter Url.isKept with
    | cons k ks =>
      rw [hpath] at hc
      exact h.path c (by rw [hpath]; exact hc)
    | nil =>
      rw [hpath, List.nil_append] at hc
      unfold urlQuery at hc
      split at hc
      · cases hc
      · rw [List.filter_cons_of_pos (by decide)] at hc
        cases hc
        decide

end Request

/-! ### Requests of clients -/

/-- What can stand in a path is neither blank nor a control character. -/
theorem solid_of_inPath {c : Char} (h : Http.Uri.inPath c = true) : Url.Solid c := by
  simp only [Http.Uri.inPath, Bool.or_eq_true, Bool.and_eq_true, beq_iff_eq,
    decide_eq_true_eq] at h
  unfold Url.Solid
  omega

/-- What a client's request is read into is bounded. -/
theorem ClientRequest.bounded_of_request {c : ClientRequest} (huri : c.uri.WellFormed)
    {r : Request} (hr : c.request = .ok r) : r.Bounded := by
  obtain ⟨authority, body, hauthority, -, rfl⟩ := request_eq_ok hr
  constructor
  · have hhttp : ∀ k ∈ "http".toList, k ≠ ':' := Ascii.forall_mem_of_all (by decide)
    intro k hk
    cases hscheme : c.uri.scheme with
    | none =>
      rw [hscheme] at hk
      exact hhttp k hk
    | some scheme =>
      rw [hscheme] at hk
      rintro rfl
      exact absurd (huri.scheme scheme hscheme _ hk) (by decide)
  · intro k hk
    change k ∈ (c.uri.path.toList.filter Url.isKept).head? at hk
    unfold Http.Uri.path at hk
    split at hk
    · cases hk
      decide
    · -- nothing of a path that was read is dropped
      have hkept : c.uri.writtenPath.toList.filter Url.isKept = c.uri.writtenPath.toList :=
        List.filter_eq_self.2 fun k' hk' => (solid_of_inPath (huri.path k' hk').1).isKept
      rw [hkept] at hk
      rw [huri.slash (by rw [hauthority]; rfl) k hk]
      decide

/-! ### The destination -/

/-- The host and the port of a place, under the scheme of a request, are those that are
contacted. -/
structure Contacts (r : Request) (d : Url.Place) (u : Url) : Prop where
  host : Url.host? d.host = some u.host
  /-- A host that is given by name is contacted by that name. -/
  name : (∀ c ∈ d.host, Url.forbidden c = false) →
    Url.endsInNumber (d.host.map Char.toLower) = false →
      u.host = .name (Ascii.lower (String.ofList d.host))
  port : d.portFor u.secure = some u.effectivePort
  http : r.scheme = "" ∨ r.scheme = "http" → u.secure = false
  https : r.scheme = "https" → u.secure = true
  /-- Nobody is asked for under a name that the request does not have. -/
  credentials : u.credentials = none

/-- The scheme of a request says whether the connection is secure. -/
theorem Request.secure_of_parts {r : Request} {authority rest : List Char} {u : Url}
    (h : Url.Parts r.cleanScheme authority rest u) :
    (r.urlScheme = "http".toList → u.secure = false) ∧
      (r.urlScheme = "https".toList → u.secure = true) := by
  -- neither name has anything that is cleaned away
  have hhttp : (String.ofList (("http".toList.dropWhile Url.isOuter).filter Url.isKept)).toLower =
      "http" := by decide +kernel
  have hhttps : (String.ofList (("https".toList.dropWhile Url.isOuter).filter Url.isKept)).toLower =
      "https" := by decide +kernel
  have hsecure := h.secure
  constructor
  · intro hurl
    rw [cleanScheme, hurl, hhttp] at hsecure
    cases hu : u.secure with
    | false => rfl
    | true => exact absurd hsecure (by rw [hu]; decide)
  · intro hurl
    rw [cleanScheme, hurl, hhttps] at hsecure
    cases hu : u.secure with
    | false => exact absurd hsecure (by rw [hu]; decide)
    | true => rfl

/-- What is read off the URL of a bounded request with a well-formed destination. -/
theorem Request.Bounded.contacts {r : Request} (h : r.Bounded) {d : Url.Place}
    (hd : d.WellFormed) (hr : r.destination = String.ofList d.text) {u : Url}
    (hu : Url.parse? r.url = some u) : Contacts r d u := by
  have htext : r.destination.toList = d.text := by rw [hr, String.toList_ofList]
  have hparts := h.parts (by rw [htext]; exact hd.text_ne_nil)
    (fun c hc => ⟨(hd.inside (htext ▸ hc)).1, (hd.inside (htext ▸ hc)).2.1⟩) hu
  rw [htext] at hparts
  -- a well-formed destination has no at sign, so host and port are all of it
  have hsplit : Url.splitUser d.text = (none, d.text) :=
    Url.splitUser_of_not_mem fun hat => (hd.inside hat).2.2 rfl
  have hhost := hparts.host
  have hport := hparts.port
  rw [hsplit, hd.splitPort] at hhost hport
  have hsecure := secure_of_parts hparts
  refine
    { host := hhost
      name := fun hname hnumber => ?_
      port := hd.port_eq hport
      http := fun hscheme => hsecure.1 ?_
      https := fun hscheme => hsecure.2 ?_
      credentials := by rw [hparts.credentials, hsplit]; rfl }
  · have hne : d.host ≠ [] := by
      rcases hd.host with ⟨address, hhost', -⟩ | ⟨hne, -⟩
      · simp [hhost']
      · exact hne
    rw [Url.Place.host?_of_name hne hname, if_neg (by simp [hnumber])] at hhost
    exact (Option.some.inj hhost).symm
  · -- no scheme stands for `http`
    rcases hscheme with hempty | hhttp
    · rw [urlScheme, hempty]
      rfl
    · rw [urlScheme, hhttp]
      rfl
  · rw [urlScheme, hscheme]
    rfl

/-- **The destination.** Whatever path and query a bounded request has, it goes to the host and
the port of its destination, which is in ASCII, or nowhere; and the requests of clients are
bounded. -/
theorem Forward.contacts_destination {r : Request} {d : Url.Place} (hd : d.WellFormed)
    (hr : r.destination = String.ofList d.text)
    (hb : r.Bounded ∨ ∃ (c : ClientRequest) (text : String),
      Http.Uri.parse? text = some c.uri ∧ c.request = .ok r)
    {σ : Type} (settings : ForwardSettings) (s : Surroundings σ) (w : σ) :
    ∀ out ∈ (forward settings s.logged r (w, [])).2.2, Contacts r d out.url := by
  intro out hout
  have hbounded : r.Bounded := by
    rcases hb with hb | ⟨c, text, hparse, hrequest⟩
    · exact hb
    · exact ClientRequest.bounded_of_request (Http.Uri.wellFormed_of_parse? hparse) hrequest
  exact hbounded.contacts hd hr (outgoing_eq_ok (outgoing_of_mem hout)).1

namespace Forward

/-- A network in which nothing answers. -/
def silence : Surroundings Unit := .offline fun call => .notStarted call.program

/-- At signs, colons and slashes in the path and the query of this request change nothing: it goes
to the host `a` at the port 8080. -/
theorem contacts_destination_marks :
    let r : Request :=
      { method := "GET", scheme := "http", destination := "a:8080", path := "//@b:1/"
        query := "@c" }
    let d : Url.Place := ⟨['a'], some ['8', '0', '8', '0']⟩
    d.WellFormed ∧ r.Bounded ∧ ∃ out ∈ (forward {} silence.logged r ((), [])).2.2,
      Contacts r d out.url ∧ out.url.effectivePort = 8080 := by
  intro r d
  have hd : d.WellFormed := ⟨.inr ⟨by decide, Ascii.forall_mem_of_all (by decide)⟩, by
    rintro digits hdigits
    cases hdigits
    exact ⟨by decide, Ascii.forall_mem_of_all (by decide)⟩⟩
  -- the path begins with a slash, and what else it holds does not matter
  have hb : r.Bounded := ⟨Ascii.forall_mem_of_all (by decide), fun c hc => by
    have hhead : (r.path.toList.filter Url.isKept).head? = some '/' := by decide
    rw [hhead] at hc
    cases hc
    decide⟩
  obtain ⟨out, hout, hport⟩ : ∃ out, outgoing {} r = .ok out ∧ out.url.effectivePort = 8080 :=
    exists_of_map_toOption (by decide +kernel)
  have hsent : out ∈ (forward {} silence.logged r ((), [])).2.2 := by
    rw [log_forward, hout]
    exact List.mem_singleton_self out
  exact ⟨hd, hb, out, hsent, contacts_destination hd rfl (.inl hb) {} silence () out hsent, hport⟩

/-- A path that begins with an at sign makes the destination a user's name: this request, whose
destination is the host `a`, is sent to the host `b`. -/
theorem path_redirects :
    let r : Request := { method := "GET", scheme := "http", destination := "a", path := "@b/" }
    let d : Url.Place := ⟨['a'], none⟩
    d.WellFormed ∧ r.destination = String.ofList d.text ∧
      ∃ out ∈ (forward {} silence.logged r ((), [])).2.2, out.url.host = .name "b" ∧
        ¬Contacts r d out.url := by
  intro r d
  have hd : d.WellFormed := ⟨.inr ⟨by decide, Ascii.forall_mem_of_all (by decide)⟩, nofun⟩
  -- the destination has become user information in front of the at sign
  obtain ⟨out, hout, hhost⟩ : ∃ out, outgoing {} r = .ok out ∧ out.url.host = .name "b" :=
    exists_of_map_toOption (by decide +kernel)
  refine ⟨hd, rfl, out, ?_, hhost, fun hcontacts => ?_⟩
  · rw [log_forward, hout]
    exact List.mem_singleton_self out
  · have hname := hcontacts.name (Ascii.forall_mem_of_all (by decide)) (by decide)
    rw [hhost] at hname
    exact absurd hname (by decide +kernel)

end Forward

end ReplayProxy
