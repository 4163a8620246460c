import ReplayProxy.Proofs.Engine.Answers
import ReplayProxy.Proofs.Forward.Contact
import ReplayProxy.Proofs.Http.Authority
import ReplayProxy.Proofs.Http.PassedOn
import ReplayProxy.Proofs.Url.Paths

/-!
# What arrives

An engine that virtualizes forwards a client's request as it is. That holds of its method, its
body and its headers: those of the connection apart, the destination is sent all values of all
names, in their order. The path and the query go through a URL, and arrive as they are if and only
if nothing in them has another spelling there (`Url.PlainPath`). Without a host in front of it, the
path does not arrive at all: its beginning is taken for the host. User information in the target
arrives as one more header, if it is text; and a request that does not say which contents it
accepts is sent as one that accepts all (`Outgoing.headersFor`).

Main statements:

* `Engine.virtualize_delivers`: what arrives, and when it is what the client sent.
* `Engine.dots_not_delivered`: dots in the path of a target do not arrive.
-/

namespace ReplayProxy

/-! ### Paths and queries -/

namespace Request

/-- Path and query hold nothing that would be dropped from a URL, or that would end them there. -/
structure Intact (r : Request) : Prop where
  path : ∀ c ∈ r.path.toList, Url.Solid c ∧ c ≠ '?' ∧ c ≠ '#'
  query : ∀ c ∈ r.query.toList, Url.Solid c ∧ c ≠ '#'

theorem mem_urlQuery {r : Request} {c : Char} (hc : c ∈ r.urlQuery) :
    c = '?' ∨ c ∈ r.query.toList := by
  unfold urlQuery at hc
  split at hc
  · cases hc
  · exact List.mem_cons.1 hc

theorem eq_of_head?_urlQuery {r : Request} {c : Char} (hc : c ∈ r.urlQuery.head?) :
    c = '?' := by
  unfold urlQuery at hc
  split at hc
  · cases hc
  · exact (Option.some.inj hc).symm

/-- What holds where two parts begin holds where they begin together. -/
theorem forall_head?_append {p : Char → Prop} {cs ds : List Char} (hcs : ∀ c ∈ cs.head?, p c)
    (hds : ∀ c ∈ ds.head?, p c) : ∀ c ∈ (cs ++ ds).head?, p c := by
  cases cs with
  | nil => exact hds
  | cons c cs => exact hcs

namespace Intact

variable {r : Request} (hi : r.Intact)

include hi

theorem solid_of_mem {c : Char} (hc : c ∈ r.path.toList ++ r.urlQuery) : Url.Solid c ∧ c ≠ '#' := by
  rcases List.mem_append.1 hc with hc | hc
  · exact ⟨(hi.path c hc).1, (hi.path c hc).2.2⟩
  · rcases mem_urlQuery hc with rfl | hc
    · decide
    · exact hi.query c hc

theorem cleanTarget_eq : r.cleanTarget = r.path.toList ++ r.urlQuery :=
  Url.cleaned_of_solid fun _ hc => (hi.solid_of_mem hc).1

/-- What is read of the path, if it is what follows an authority, and of the query. -/
theorem read {before path : List Char} (hpath : r.path.toList = before ++ path)
    {scheme authority : List Char} {u : Url}
    (hparts : Url.Parts scheme authority (path ++ r.urlQuery) u) :
    u.path = Url.resolvedPath path ∧
      u.query.getD "" = String.ofList (Url.encode Url.inQuery r.query.toList) := by
  have hmem : ∀ c ∈ path ++ r.urlQuery, c ∈ r.path.toList ++ r.urlQuery := by
    rw [hpath, List.append_assoc]
    exact fun c hc => List.mem_append_right before hc
  -- no number sign cuts anything off, and the first question mark begins the query
  have hfragment : (path ++ r.urlQuery).takeWhile (· != '#') = path ++ r.urlQuery :=
    List.takeWhile_eq_self_iff.2 fun c hc => bne_iff_ne.2 (hi.solid_of_mem (hmem c hc)).2
  have hstays : ∀ c ∈ path, (c != '?') = true := fun c hc =>
    bne_iff_ne.2 (hi.path c (hpath ▸ List.mem_append_right before hc)).2.1
  have hquery : ∀ c ∈ r.urlQuery.head?, (c != '?') = false := by
    intro c hc
    rw [eq_of_head?_urlQuery hc]
    decide
  refine ⟨?_, ?_⟩
  · rw [hparts.path, hfragment, Url.takeWhile_of_stop hstays hquery]
  · rw [hparts.query, hfragment, Url.dropWhile_of_stop hstays hquery]
    unfold urlQuery
    split
    · next hempty =>
      rw [String.isEmpty_iff.1 hempty]
      rfl
    · rfl

/-- Without a destination, the authority is taken off the path, and what is left of the path is
not the path. -/
theorem path_ne_of_hostless (h : r.Bounded) (hempty : r.destination = "") {u : Url}
    (hu : Url.parse? r.url = some u) :
    u.path ≠ r.path ∧
      u.query.getD "" = String.ofList (Url.encode Url.inQuery r.query.toList) := by
  have hnil : r.destination.toList = [] := by rw [hempty]; rfl
  -- whoever reads the URL skips all slashes, those of the path with those before it
  obtain ⟨slashes, authority, path, hwhole, hslashes, hstart, hinside, hends⟩ :=
    Url.exists_split r.path.toList
  have hparts : Url.Parts r.cleanScheme authority (path ++ r.urlQuery) u := by
    have hclean : Url.clean r.url.toList =
        r.cleanScheme ++
          ':' :: (('/' :: '/' :: slashes) ++ (authority ++ (path ++ r.urlQuery))) := by
      rw [clean_url (by rw [hnil]; nofun), hi.cleanTarget_eq, hwhole, hnil]
      simp
    refine Url.parts_of_parse? hclean h.ne_of_mem_cleanScheme ?_ ?_ hinside ?_ hu
    · simp only [List.forall_mem_cons]
      exact ⟨by decide, by decide, hslashes⟩
    · rw [← List.append_assoc]
      exact forall_head?_append hstart fun c hc => by rw [eq_of_head?_urlQuery hc]; decide
    · exact forall_head?_append hends fun c hc => by rw [eq_of_head?_urlQuery hc]; decide
  rw [← List.append_assoc] at hwhole
  have hread := hi.read hwhole hparts
  refine ⟨?_, hread.2⟩
  rw [hread.1, ← String.ofList_toList (s := r.path), hwhole]
  refine Url.resolvedPath_ne_append ?_ fun c hc => ?_
  · obtain ⟨c, hc⟩ := List.exists_mem_of_ne_nil authority hparts.authority_ne_nil
    refine ⟨c, List.mem_append_right slashes hc, ?_⟩
    rintro rfl
    exact absurd (hinside _ hc) (by decide)
  · -- the path holds nothing else that ends an authority
    have hmem : c ∈ r.path.toList := hwhole ▸ List.mem_append_right _ (List.mem_of_mem_head? hc)
    obtain ⟨-, hquestion, hhash⟩ := hi.path c hmem
    simpa [Url.endsAuthority, hquestion, hhash] using hends c hc

/-- The path and the query that are read off the URL of a bounded request. -/
theorem target (h : r.Bounded) (hne : r.destination ≠ "")
    (hdestination : ∀ c ∈ r.destination.toList, Url.Solid c ∧ Url.endsAuthority c = false)
    {u : Url} (hu : Url.parse? r.url = some u) :
    u.path = Url.resolvedPath r.path.toList ∧
      u.query.getD "" = String.ofList (Url.encode Url.inQuery r.query.toList) := by
  have hparts := h.parts (mt String.toList_eq_nil_iff.1 hne) hdestination hu
  rw [hi.cleanTarget_eq] at hparts
  exact hi.read (List.nil_append _).symm hparts

end Intact

end Request

/-! ### Requests of clients -/

namespace Http.Uri

theorem solid_of_inAuthority {c : Char} (h : inAuthority c = true ∨ c = '%') : Url.Solid c := by
  rcases h with h | rfl
  · rw [inAuthority, Bool.or_eq_true, List.contains_iff_mem] at h
    rcases h with h | h
    · -- letters and digits stand above the blanks, and of the marks each is tried
      rw [Ascii.isAlphanumeric_iff] at h
      unfold Url.Solid
      omega
    · have hmarks : ∀ k ∈ "!#$&'()*+,-./:;=?@[]_~".toList, Url.Solid k :=
        Ascii.forall_mem_of_all (by decide)
      exact hmarks c h
  · decide

theorem endsAuthority_of_inAuthority {c : Char} (h : inAuthority c = true ∨ c = '%')
    (hends : endsAuthority c = false) : Url.endsAuthority c = false := by
  have hback : c ≠ '\\' := by
    rintro rfl
    exact absurd h (by decide)
  simp only [endsAuthority, Bool.or_eq_false_iff] at hends
  simp [Url.endsAuthority, hends, hback]

end Http.Uri

theorem solid_of_inQuery {c : Char} (h : Http.Uri.inQuery c = true) : Url.Solid c := by
  simp only [Http.Uri.inQuery, Bool.or_eq_true, Bool.and_eq_true, beq_iff_eq,
    decide_eq_true_eq] at h
  unfold Url.Solid
  omega

namespace ClientRequest

variable {c : ClientRequest} {r : Request}

theorem mem_destination {scheme authority : String} {k : Char}
    (hk : k ∈ (destination scheme authority).toList) : k ∈ authority.toList ∨ k = ']' := by
  unfold destination at hk
  split at hk
  · split at hk
    · exact Http.Uri.mem_hostOf hk
    · exact .inl hk
  · exact .inl hk

/-- What a client's destination holds neither is dropped from a URL nor ends there. -/
theorem destination_of_request (huri : c.uri.WellFormed) (hr : c.request = .ok r) :
    ∀ k ∈ r.destination.toList, Url.Solid k ∧ Url.endsAuthority k = false := by
  obtain ⟨authority, body, hauthority, -, rfl⟩ := request_eq_ok hr
  intro k hk
  rcases mem_destination hk with hk | rfl
  · obtain ⟨hin, hends⟩ := (huri.authority authority hauthority).2 k hk
    exact ⟨Http.Uri.solid_of_inAuthority hin, Http.Uri.endsAuthority_of_inAuthority hin hends⟩
  · decide

/-- Neither path nor query of a client's request holds anything that would not stay in a URL. -/
theorem intact_of_request (huri : c.uri.WellFormed) (hr : c.request = .ok r) : r.Intact := by
  obtain ⟨authority, body, -, -, rfl⟩ := request_eq_ok hr
  constructor
  · intro k hk
    change k ∈ c.uri.path.toList at hk
    unfold Http.Uri.path at hk
    -- an empty path counts as a slash
    split at hk
    · rw [List.mem_singleton.1 hk]
      decide
    · exact ⟨solid_of_inPath (huri.path k hk).1, (huri.path k hk).2⟩
  · intro k hk
    cases hquery : c.uri.query with
    | none => simp [hquery] at hk
    | some q =>
      have hq := huri.query q hquery k (by simpa [hquery] using hk)
      exact ⟨solid_of_inQuery hq.1, hq.2⟩

end ClientRequest

/-! ### What arrives -/

/-- What goes out for a client's request that was read is the client's request. -/
structure Delivered (c : ClientRequest) (r : Request) (out : Outgoing) : Prop where
  method : out.method = c.method
  body : c.body = .ok out.body
  /-- All values of the names that are sent arrive in order, but for one value that user
  information adds. -/
  headers : ∀ name, Http.isHopByHop name = false → namedValues name c.headers ≠ [] →
    ((namedValues name out.headers).map Bytes.ofText = namedValues name c.headers ↔
      Outgoing.authorization out.url = none ∨ Ascii.sameLetters "authorization" name = false)
  /-- Other names arrive only if user information or the name of `Outgoing.anyContent` makes
  them. -/
  added : ∀ name, Http.isHopByHop name = false → namedValues name c.headers = [] →
    namedValues name out.headers =
      namedValues name ((Outgoing.authorization out.url).map ("authorization", ·)).toList ++
        namedValues name [Outgoing.anyContent]
  /-- There is no user information without an at sign. -/
  credentials : r.destination ≠ "" → '@' ∉ r.destination.toList → out.url.credentials = none
  /-- The path arrives as it is if it is plain and follows a destination. -/
  path : out.url.path = r.path ↔ r.destination ≠ "" ∧ Url.PlainPath r.path.toList
  /-- The query arrives as it is if nothing in it is to be written otherwise. -/
  query : out.url.query.getD "" = r.query ↔ ∀ k ∈ r.query.toList, Url.inQuery k = false

/-- The values that were read from a client are passed on as they came. -/
theorem ClientRequest.values_passedOn {c : ClientRequest} {r : Request} (hr : c.request = .ok r)
    (hvalues : ∀ h ∈ c.headers, h.2.isText = true) {name : String}
    (hname : Http.isHopByHop name = false) :
    (namedValues name (Http.passedOn r.headers)).map Bytes.ofText = namedValues name c.headers := by
  obtain ⟨authority, body, -, -, rfl⟩ := request_eq_ok hr
  -- a value under the name is one of the client
  have htext : ∀ v ∈ namedValues name c.headers, v.isText = true := by
    intro v hv
    obtain ⟨h, hh, rfl⟩ := List.mem_map.1 hv
    exact hvalues h (List.mem_of_mem_filter hh)
  rw [Http.namedValues_passedOn (Headers.canonical_ofPairs _) hname, Headers.values_ofPairs_lossy,
    Headers.map_ofText_lossy htext]

namespace Outgoing

variable {u : Url} {name : String} {given : List (String × String)}

/-- No header is of the name of `Outgoing.anyContent` if there are no values under it. -/
theorem any_anyContent (u : Url) (given : List (String × String)) :
    ((((authorization u).map ("authorization", ·)).toList ++ given).any fun h =>
        Ascii.sameLetters h.1 anyContent.1) = true ↔ namedValues anyContent.1 given ≠ [] := by
  -- user information comes under another name
  have hother : (((authorization u).map ("authorization", ·)).toList.any fun h =>
      Ascii.sameLetters h.1 anyContent.1) = false := by
    cases authorization u with
    | none => rfl
    | some value => exact List.any_eq_false.2 (by simpa using by decide +kernel)
  rw [List.any_append, hother, Bool.false_or, List.any_eq_true, namedValues, Ne,
    List.map_eq_nil_iff, List.filter_eq_nil_iff]
  push Not
  rfl

/-- Under a name, what is given under it goes out, behind the user information. A name that is
not given has no value but that of `Outgoing.anyContent`. -/
theorem namedValues_headersFor :
    namedValues name (headersFor u given) =
      namedValues name ((authorization u).map ("authorization", ·)).toList ++
        if namedValues name given = [] then namedValues name [anyContent]
        else namedValues name given := by
  unfold headersFor
  simp only [any_anyContent]
  cases hname : Ascii.sameLetters anyContent.1 name with
  -- the name is the added one: it is added if and only if nothing is given under it
  | true =>
    rw [← namedValues_congr hname given]
    split
    · rw [namedValues_append, namedValues_congr hname given]
    · next hmissing =>
      rw [not_not] at hmissing
      rw [if_pos hmissing, namedValues_append, namedValues_append,
        ← namedValues_congr hname given, hmissing, List.append_nil]
  | false =>
    -- a header of another name changes nothing under this one
    have hadds : namedValues name [anyContent] = [] := by
      rw [namedValues_cons, hname]
      rfl
    have hvalues : (if namedValues name given = [] then [] else namedValues name given) =
        namedValues name given := by
      split
      · next hmissing => exact hmissing.symm
      · rfl
    rw [hadds, hvalues]
    split
    · exact namedValues_append _ _
    · rw [namedValues_append, namedValues_append, hadds, List.append_nil]

/-- User information is sent under the one name. -/
theorem namedValues_authorization :
    namedValues name ((authorization u).map ("authorization", ·)).toList = [] ↔
      authorization u = none ∨ Ascii.sameLetters "authorization" name = false := by
  cases authorization u with
  | none => simp [namedValues]
  | some value =>
    change namedValues name [("authorization", value)] = [] ↔ _
    rw [namedValues_cons]
    cases Ascii.sameLetters "authorization" name <;> simp [namedValues]

end Outgoing

/-- To virtualize is to forward, as far as the world is concerned. -/
theorem Engine.answer_world {e : Engine} (hmode : e.mode = .virtualize) {σ : Type} (o : Outside σ)
    (r : Request) (w : σ) : (e.answer o r w).2 = (o.forward e.forwarding r w).2 := by
  have hanswer : (e.answer o r w).2 = (e.virtualize o r w).2 := by
    unfold answer
    simp only [hmode]
    rfl
  rw [hanswer, virtualize, bind_apply]
  cases (o.forward e.forwarding r w).1 <;> rfl

namespace Engine

section Handling

variable {e : Engine} (hmode : e.mode = .virtualize) {c : ClientRequest} {r : Request}
  (hr : c.request = .ok r) {σ : Type} {s : Surroundings σ} {w : σ}

include hmode hr

/-- For a client's request that it takes up, an engine that virtualizes sends what goes out for
what was read. -/
theorem log_handle (htakes : e.takesUp c = true) :
    (e.handle s.logged c (w, [])).2.2 =
      match Forward.outgoing e.forwarding r with
      | .ok out => [out]
      | .error _ => [] := by
  obtain ⟨r', hr', -, hworld⟩ := handle_of_takesUp s.logged (w, []) htakes
  obtain rfl : r = r' := Except.ok.inj (hr.symm.trans hr')
  rw [hworld, process, answer_world hmode]
  exact Forward.log_forward e.forwarding s r w []

/-- For others it sends nothing. -/
theorem outgoing_of_handle {out : Outgoing} (hout : out ∈ (e.handle s.logged c (w, [])).2.2) :
    Forward.outgoing e.forwarding r = .ok out := by
  cases htakes : e.takesUp c with
  | false =>
    rw [(handle_of_not_takesUp s.logged (w, []) htakes).2] at hout
    cases hout
  | true =>
    rw [log_handle hmode hr htakes] at hout
    split at hout
    · next houtgoing => rw [List.mem_singleton.1 hout, houtgoing]
    · cases hout

end Handling

/-- **What arrives.** Whatever an engine that virtualizes sends for a client's request with values
that are text, method, body and headers are those of the client; path and query are if they are
written as a URL writes them. -/
theorem virtualize_delivers {e : Engine} (hmode : e.mode = .virtualize) {c : ClientRequest}
    {text : String} (huri : Http.Uri.parse? text = some c.uri)
    (hvalues : ∀ h ∈ c.headers, h.2.isText = true) {r : Request} (hr : c.request = .ok r)
    {σ : Type} (s : Surroundings σ) (w : σ) :
    ∀ out ∈ (e.handle s.logged c (w, [])).2.2, Delivered c r out := by
  intro out hout
  have hwell := Http.Uri.wellFormed_of_parse? huri
  obtain ⟨hurl, hmethod, hbody, hheaders⟩ :=
    Forward.outgoing_eq_ok (outgoing_of_handle hmode hr hout)
  have hbounded := ClientRequest.bounded_of_request hwell hr
  have hintact := ClientRequest.intact_of_request hwell hr
  have hdestination := ClientRequest.destination_of_request hwell hr
  obtain ⟨hread, hcalled⟩ : c.body = .ok r.body ∧ r.method = c.method := by
    obtain ⟨authority, body, -, hread, rfl⟩ := ClientRequest.request_eq_ok hr
    exact ⟨hread, rfl⟩
  refine
    { method := hmethod.trans hcalled
      body := by rw [hread, hbody]
      headers := fun name hname hsent => ?_
      added := fun name hname hunsent => ?_
      credentials := fun hne hat => ?_
      path := ?_
      query := ?_ }
  · -- what user information adds stands before the client's values
    have hpassed := ClientRequest.values_passedOn hr hvalues hname
    have hne : namedValues name (Http.passedOn r.headers) ≠ [] := fun hnil =>
      hsent (by rw [← hpassed, hnil, List.map_nil])
    rw [hheaders, Outgoing.namedValues_headersFor, if_neg hne, List.map_append, hpassed,
      List.append_left_eq_self, List.map_eq_nil_iff, Outgoing.namedValues_authorization]
  · have hnil : namedValues name (Http.passedOn r.headers) = [] := by
      rw [← List.map_eq_nil_iff, ClientRequest.values_passedOn hr hvalues hname, hunsent]
    rw [hheaders, Outgoing.namedValues_headersFor, if_pos hnil]
  · rw [(hbounded.parts (mt String.toList_eq_nil_iff.1 hne) hdestination hurl).credentials,
      Url.splitUser_of_not_mem hat]
    rfl
  · -- a path without a destination loses its beginning to the authority
    by_cases hne : r.destination = ""
    · have hlost := (hintact.path_ne_of_hostless hbounded hne hurl).1
      exact iff_of_false hlost fun hplain => hplain.1 hne
    · rw [(hintact.target hbounded hne hdestination hurl).1, and_iff_right hne,
        ← Url.resolvedPath_eq_iff, String.ofList_toList]
  · have hquery : out.url.query.getD "" =
        String.ofList (Url.encode Url.inQuery r.query.toList) := by
      by_cases hne : r.destination = ""
      · exact (hintact.path_ne_of_hostless hbounded hne hurl).2
      · exact (hintact.target hbounded hne hdestination hurl).2
    rw [hquery, ← Url.encode_eq_self_iff Url.sparesBytes_inQuery, ← String.toList_inj,
      String.toList_ofList]

/-- An engine that virtualizes and deals with all hosts. -/
def virtualizing : Engine := { recorder with mode := .virtualize }

/-- A client's request to the host `a`, with a header that comes twice. -/
def asking (path : String) (query : Option String) : ClientRequest where
  method := "GET"
  uri := ⟨some "http", some "a", path, query⟩
  headers := [("x-tag", [0x31]), ("x-tag", [0x32])]
  body := .ok []

/-- For such a request something is sent, to the path that its URL has. -/
theorem exists_sent {path path' : String} {query : Option String} {r : Request}
    (hr : (asking path query).request = .ok r)
    (hpath : (Forward.outgoing {} r).toOption.map (·.url.path) = some path') :
    ∃ out ∈ (virtualizing.handle Forward.silence.logged (asking path query) ((), [])).2.2,
      out.url.path = path' := by
  obtain ⟨out, hout, hpath⟩ := exists_of_map_toOption hpath
  -- whether it is taken up does not depend on the path
  have htakes : virtualizing.takesUp (asking path query) = true := by
    change virtualizing.takesUp (asking "" none) = true
    decide +kernel
  refine ⟨out, ?_, hpath⟩
  have houtgoing : Forward.outgoing virtualizing.forwarding r = .ok out := hout
  rw [log_handle rfl hr htakes, houtgoing]
  exact List.mem_singleton_self out

/-- A plain path with a query arrives as it is, and so does a header that comes twice. -/
theorem virtualize_delivers_plain :
    ∃ r, (asking "/x" (some "q=1")).request = .ok r ∧
      ∃ out ∈ (virtualizing.handle Forward.silence.logged (asking "/x" (some "q=1")) ((), [])).2.2,
        Delivered (asking "/x" (some "q=1")) r out ∧ out.url.path = "/x" := by
  obtain ⟨r, hr, hpath⟩ : ∃ r, (asking "/x" (some "q=1")).request = .ok r ∧
      (Forward.outgoing {} r).toOption.map (·.url.path) = some "/x" :=
    ⟨_, ClientRequest.request_of_body rfl rfl, by decide +kernel⟩
  obtain ⟨out, hout, hpath⟩ := exists_sent hr hpath
  have huri : Http.Uri.parse? "http://a/x?q=1" = some (asking "/x" (some "q=1")).uri := by
    decide +kernel
  have hdelivered := virtualize_delivers (e := virtualizing) rfl huri (by decide +kernel) hr
    Forward.silence () out hout
  exact ⟨r, hr, out, hout, hdelivered, hpath⟩

/-- Dots in a path do not arrive: the destination is asked for the path `/b` when the client asked
for `/../b`. -/
theorem dots_not_delivered :
    Http.Uri.parse? "http://a/../b" = some (asking "/../b" none).uri ∧
      ∃ r, (asking "/../b" none).request = .ok r ∧ r.destination = "a" ∧ r.path = "/../b" ∧
        ∃ out ∈ (virtualizing.handle Forward.silence.logged (asking "/../b" none) ((), [])).2.2,
          out.url.path = "/b" ∧ ¬Url.PlainPath r.path.toList := by
  obtain ⟨r, hr, hdestination, hwritten, hpath⟩ : ∃ r, (asking "/../b" none).request = .ok r ∧
      r.destination = "a" ∧ r.path = "/../b" ∧
      (Forward.outgoing {} r).toOption.map (·.url.path) = some "/b" :=
    ⟨_, ClientRequest.request_of_body rfl rfl, by decide +kernel, by decide +kernel,
      by decide +kernel⟩
  obtain ⟨out, hout, hpath⟩ := exists_sent hr hpath
  -- two dots are one of the segments that a plain path must not have
  have hplain : ¬Url.PlainPath r.path.toList := by
    rw [hwritten]
    intro h
    have hdots := (h.dots ['.', '.'] (by decide +kernel)).2
    exact absurd hdots (by decide +kernel)
  exact ⟨by decide +kernel, r, hr, hdestination, hwritten, out, hout, hpath, hplain⟩

end Engine

end ReplayProxy
