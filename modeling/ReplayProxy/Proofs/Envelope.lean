import ReplayProxy.Envelope
import ReplayProxy.Fingerprint
import ReplayProxy.Proofs.Fallible
import ReplayProxy.Proofs.Headers
import ReplayProxy.Proofs.Json.RoundTrip
import ReplayProxy.Proofs.Text.Base64

/-!
# Stored exchanges come back

An exchange is stored as the JSON text of its form. Going there and back has three layers,
and each has its own law:

* a form's text is read as the form (`RequestForm.ofTree_toValue`,
  `ResponseForm.ofTree_toValue`, `ExchangeForm.ofTree_toValue`), for every form, and so are
  the texts in which forms travel (`Archive.parse_text`, `Payload.parse_bytes`);
* a body is read back from its form, as text or as base64 (`bodyOfForm_bodyForm`);
* an exchange is read back from its form up to the spelling of its headers
  (`ExchangeForm.exchange_ofExchange`), so unchanged when they are canonical.

Everything that is decoded has canonical headers (`Exchange.canonical_of_decode`), so what
is once read can be stored and read again without a change, and keeps its key.
-/

namespace ReplayProxy

open Json (Value Tree Fault RecordField)

/-! ### Typed reading of lists and members -/

namespace Json

theorem Tree.eachItem_map {f : Tree → Except Fault α} {t : γ → Tree} {a : γ → α} {xs : List γ}
    (h : ∀ x ∈ xs, f (t x) = .ok (a x)) : Tree.eachItem f true (xs.map t) = .ok (xs.map a) := by
  induction xs with
  | nil => rfl
  | cons x xs ih =>
    rw [List.map_cons, Tree.eachItem, h x (by simp), ih fun y hy => h y (by simp [hy])]
    rfl

theorem Tree.eachMember_map {f : Tree → Except Fault α} {t : γ → Tree} {a : γ → α} {xs : List γ}
    (name : γ → String) (h : ∀ x ∈ xs, f (t x) = .ok (a x)) :
    Tree.eachMember f true (xs.map fun x => (some (name x), t x)) =
      .ok (xs.map fun x => (name x, a x)) := by
  induction xs with
  | nil => rfl
  | cons x xs ih =>
    rw [List.map_cons, Tree.eachMember, h x (by simp), ih fun y hy => h y (by simp [hy])]
    rfl

end Json

/-! ### Headers and their object -/

namespace Headers

theorem whole_toValue (headers : Headers) : headers.toValue.Whole := by
  -- members are lists, and lists hold texts, of which each is whole
  rw [toValue, Value.Whole, Value.wholeMembers_iff]
  intro m hm
  obtain ⟨entry, -, rfl⟩ := List.mem_map.1 hm
  rw [Value.Whole, Value.wholeItems_iff]
  intro v hv
  obtain ⟨text, -, rfl⟩ := List.mem_map.1 hv
  trivial

/-- Headers are read back from their object. -/
theorem ofTree_toValue (headers : Headers) : ofTree headers.toValue.tree = .ok headers := by
  -- inside out: first the list of values under a name, then the members of the object
  have hlist : ∀ entry ∈ headers.toList,
      Tree.asList Tree.asText (Value.array (entry.2.map Value.string)).tree = .ok entry.2 := by
    intro entry _
    rw [Value.tree, Value.itemTrees_eq_map, List.map_map, Tree.asList]
    have hitems : ∀ text ∈ entry.2,
        Tree.asText ((Value.tree ∘ Value.string) text) = .ok (id text) := fun _ _ => rfl
    rw [Json.Tree.eachItem_map hitems, List.map_id]
  rw [toValue, Value.tree, Value.memberTrees_eq_map, List.map_map, ofTree, Tree.asMembers]
  have hmembers := Json.Tree.eachMember_map (fun entry : String × List String => entry.1) hlist
  simp only [Function.comp_def] at hmembers ⊢
  rw [hmembers, ok_bind, pure_eq_ok]
  simp [foldl_insert_toList]

end Headers

/-! ### Exchanges up to the spelling of their headers -/

namespace Exchange

/-- Both header maps are canonical. -/
structure Canonical (x : Exchange) : Prop where
  request : x.request.headers.Canonical
  response : x.response.headers.Canonical

/-- The exchange with both header maps in canonical form. -/
def canonical (x : Exchange) : Exchange where
  request := { x.request with headers := x.request.headers.canonical }
  response := { x.response with headers := x.response.headers.canonical }
  kind := x.kind

theorem canonical_eq_self {x : Exchange} (h : x.Canonical) : x.canonical = x := by
  rw [canonical, Headers.canonical_eq_self h.request, Headers.canonical_eq_self h.response]

end Exchange

/-! ### Forms and their text -/

namespace RequestForm

theorem whole_toValue (f : RequestForm) : f.toValue.Whole := by
  rw [toValue, Value.Whole, Value.wholeMembers_iff]
  have hkind : (textOrNull f.kind).Whole := by cases f.kind <;> trivial
  have hheaders := f.headers.whole_toValue
  cases f.encodedBody <;> simp [Value.Whole, hkind, hheaders]

/-- The form of a request is read back from its object. -/
theorem ofTree_toValue (f : RequestForm) : ofTree f.toValue.tree = .ok f := by
  have hkind : Tree.asText? (textOrNull f.kind).tree = .ok f.kind := by cases f.kind <;> rfl
  have hheaders := f.headers.ofTree_toValue
  obtain ⟨kind, path, method, destination, scheme, query, body, encodedBody, headers⟩ := f
  -- the member `encodedBody` is left out when it is false, and false is what its absence means
  cases encodedBody <;>
    simp [toValue, Value.tree, Value.memberTrees, ofTree, RecordField.readRecord, fields,
      RecordField.readMembers, RecordField.optional, Tree.asText, Tree.asBool, hkind, hheaders]

end RequestForm

namespace ResponseForm

theorem whole_toValue (f : ResponseForm) : f.toValue.Whole := by
  have hheaders := f.headers.whole_toValue
  simp [toValue, Value.Whole, Value.WholeMembers, Value.nat, hheaders]

/-- A status is read back from its number. -/
theorem asWord16_status (status : UInt16) :
    Tree.asWord16 (Value.nat status.toNat).tree = .ok status := by
  have hlt := status.toNat_lt
  -- a status is so small that its number is an integer with sixteen bits
  have hvalue : (Json.Numeral.ofInt status.toNat).value? = some (.int status.toNat) :=
    Json.Numeral.value?_ofInt (by omega) (by unfold Json.Numeral.wordMax; omega)
  simp [Value.nat, Value.tree, Tree.asWord16, hvalue]
  omega

/-- The form of a response is read back from its object. -/
theorem ofTree_toValue (f : ResponseForm) : ofTree f.toValue.tree = .ok f := by
  have hstatus := asWord16_status f.status
  have hheaders := f.headers.ofTree_toValue
  obtain ⟨status, body, encodedBody, headers⟩ := f
  simp [toValue, Value.tree, Value.memberTrees, ofTree, RecordField.readRecord, fields,
    RecordField.readMembers, RecordField.optional, Tree.asText, Tree.asBool, hstatus, hheaders]

end ResponseForm

namespace ExchangeForm

theorem whole_toValue (f : ExchangeForm) : f.toValue.Whole := by
  simp [toValue, Value.Whole, Value.WholeMembers, f.request.whole_toValue,
    f.response.whole_toValue]

/-- The form of an exchange is read back from its object. -/
theorem ofTree_toValue (f : ExchangeForm) : ofTree f.toValue.tree = .ok f := by
  simp [toValue, Value.tree, Value.memberTrees, ofTree, RecordField.readRecord, fields,
    RecordField.readMembers, RecordField.mandatory, f.request.ofTree_toValue,
    f.response.ofTree_toValue]

/-- The form of an exchange is read back from its text. -/
theorem decode_bytes (f : ExchangeForm) : Json.decode ofTree f.toValue.bytes = .ok f := by
  rw [Json.decode_bytes ofTree f.whole_toValue, ofTree_toValue]

end ExchangeForm

namespace Archive

theorem whole_toValue (a : Archive) : a.toValue.Whole := by
  simp only [toValue, Value.Whole, Value.WholeMembers, and_true]
  rw [Value.wholeItems_iff]
  intro v hv
  obtain ⟨f, -, rfl⟩ := List.mem_map.1 hv
  exact f.whole_toValue

/-- An archive is read back from its object. -/
theorem ofTree_toValue (a : Archive) : ofTree a.toValue.tree = .ok a := by
  have hitems : ∀ f ∈ a.data,
      ExchangeForm.ofTree ((Value.tree ∘ ExchangeForm.toValue) f) = .ok (id f) :=
    fun f _ => f.ofTree_toValue
  have hforms : Tree.asList ExchangeForm.ofTree (.array (Value.itemTrees
      (a.data.map fun f => f.toValue)) true) = .ok a.data := by
    rw [Value.itemTrees_eq_map, List.map_map, Tree.asList]
    exact (Json.Tree.eachItem_map hitems).trans (by rw [List.map_id])
  simp [toValue, Value.tree, Value.memberTrees, ofTree, RecordField.readRecord, fields,
    RecordField.readMembers, RecordField.optional, hforms]

/-- **An archive is read back from its text.** -/
theorem parse_text (a : Archive) : parse (Bytes.ofText a.text) = .ok a := by
  rw [parse, text, ← Value.bytes, Json.decode_bytes ofTree a.whole_toValue, ofTree_toValue]

end Archive

namespace Payload

theorem whole_toValue (p : Payload) : p.toValue.Whole := by
  simp [toValue, Value.Whole, Value.WholeMembers, p.request.whole_toValue,
    p.response.whole_toValue]

/-- A payload is read back from its object. -/
theorem ofTree_toValue (p : Payload) : ofTree p.toValue.tree = .ok p := by
  simp [toValue, Value.tree, Value.memberTrees, ofTree, RecordField.readRecord, fields,
    RecordField.readMembers, RecordField.optional, Tree.asText, p.request.ofTree_toValue,
    p.response.ofTree_toValue]

/-- A payload is read back from its bytes. -/
theorem parse_bytes (p : Payload) : parse p.toValue.bytes = .ok p := by
  rw [parse, Json.decode_bytes ofTree p.whole_toValue, ofTree_toValue]

end Payload

/-! ### Exchanges and their forms -/

/-- A body is read back from its form, whether or not it had to be encoded. -/
theorem bodyOfForm_bodyForm (body : Bytes) (encode : Bool) :
    bodyOfForm (bodyForm body encode).1 (bodyForm body encode).2 = .ok body := by
  unfold bodyForm
  -- a text is written as it is, unless it is to be encoded like anything else
  split
  · next s htext => simp [bodyOfForm, Bytes.ofText_of_text? htext]
  · simp [bodyOfForm, Base64.decode?_encode]

theorem RequestForm.request_ofRequest (r : Request) (kind : Option String) :
    (RequestForm.ofRequest r kind).request = .ok { r with headers := r.headers.canonical } := by
  simp [RequestForm.request, RequestForm.ofRequest, bodyOfForm_bodyForm]

theorem ResponseForm.response_ofResponse (r : Response) :
    (ResponseForm.ofResponse r).response = .ok { r with headers := r.headers.canonical } := by
  simp [ResponseForm.response, ResponseForm.ofResponse, bodyOfForm_bodyForm]

namespace ExchangeForm

/-- Any exchange is read back from its form up to the spelling of its headers. -/
theorem exchange_ofExchange (x : Exchange) : (ofExchange x).exchange = .ok x.canonical := by
  rw [exchange, ofExchange, RequestForm.request_ofRequest, ok_bind,
    ResponseForm.response_ofResponse]
  rfl

/-- The exchange of a form has canonical headers. -/
theorem canonical_of_exchange {f : ExchangeForm} {x : Exchange} (h : f.exchange = .ok x) :
    x.Canonical := by
  obtain ⟨request, hrequest, h⟩ := bind_eq_ok_iff.1 h
  obtain ⟨response, hresponse, h⟩ := bind_eq_ok_iff.1 h
  obtain ⟨_, -, hrequest⟩ := bind_eq_ok_iff.1 hrequest
  obtain ⟨_, -, hresponse⟩ := bind_eq_ok_iff.1 hresponse
  cases hrequest
  cases hresponse
  cases h
  -- both header maps were put in canonical form when they were read
  exact ⟨Headers.canonical_canonical _, Headers.canonical_canonical _⟩

end ExchangeForm

namespace Exchange

/-- Any exchange is read back from its stored form up to the spelling of its headers. -/
theorem decode_encode_eq (x : Exchange) : decode x.encode = .ok x.canonical := by
  rw [decode, encode, ExchangeForm.decode_bytes]
  exact ExchangeForm.exchange_ofExchange x

theorem decode_encode {x : Exchange} (h : x.Canonical) : decode x.encode = .ok x := by
  rw [decode_encode_eq, canonical_eq_self h]

/-- Whatever is decoded has canonical headers. -/
theorem canonical_of_decode {b : Bytes} {x : Exchange} (h : decode b = .ok x) : x.Canonical := by
  unfold decode at h
  -- what is no JSON of an exchange is not decoded
  split at h
  · exact ExchangeForm.canonical_of_exchange h
  · cases h

/-- **The stored form of exchanges.** An exchange is read back from its stored form exactly
when its headers are canonical. Whatever bytes are decoded, the exchange that they give has
canonical headers, and storing it again and reading it once more changes neither the
exchange, nor its fingerprint, nor its stored form. -/
theorem decode_encode_iff_canonical :
    (∀ x : Exchange, decode x.encode = .ok x ↔ x.Canonical) ∧
      ∀ (b : Bytes) (x : Exchange), decode b = .ok x →
        x.Canonical ∧ decode x.encode = .ok x ∧
          ∀ y, decode x.encode = .ok y →
            y.request.fingerprint = x.request.fingerprint ∧ y.encode = x.encode := by
  refine ⟨fun x => ⟨canonical_of_decode, decode_encode⟩, fun b x hdecode => ?_⟩
  -- what was decoded is canonical already, so the first half applies to it
  have hcanonical := canonical_of_decode hdecode
  refine ⟨hcanonical, decode_encode hcanonical, fun y hy => ?_⟩
  rw [decode_encode hcanonical] at hy
  -- the exchange that is read again is the same one
  cases hy
  exact ⟨rfl, rfl⟩

/-- A request whose body is no text, with a compressed response that sets two cookies under
two spellings of one name. -/
def compressedLogin : Exchange where
  request :=
    { method := "POST", destination := "Example.com:8080", path := "/login", body := [0xFF, 0x00]
      headers := .ofPairs [("content-type", "application/octet-stream")] }
  response :=
    { status := 201, body := Bytes.ofText "ok"
      headers := .ofPairs
        [("content-encoding", "br"), ("set-cookie", "a=1"), ("Set-Cookie", "b=2")] }
  kind := some "recording"

theorem decode_encode_compressedLogin :
    compressedLogin.Canonical ∧ decode compressedLogin.encode = .ok compressedLogin ∧
      ∀ y, decode compressedLogin.encode = .ok y →
        y.request.fingerprint = compressedLogin.request.fingerprint ∧
          y.encode = compressedLogin.encode := by
  have hcanonical : compressedLogin.Canonical :=
    ⟨Headers.canonical_ofPairs _, Headers.canonical_ofPairs _⟩
  have hread := (decode_encode_iff_canonical.1 compressedLogin).2 hcanonical
  exact decode_encode_iff_canonical.2 compressedLogin.encode compressedLogin hread

end Exchange

end ReplayProxy
