import Mathlib.Data.List.Sort
import ReplayProxy.Fingerprint
import ReplayProxy.Proofs.Headers
import ReplayProxy.Proofs.Text.Numbers

/-!
# A fingerprint sees five parts and nothing else

What is hashed for a request is made of five parts, each behind its length in eight bytes. This
file shows that the parts can be read off the hashed bytes again, whatever they contain, also
when they contain bytes that look like lengths. The argument goes from the front: the first
eight bytes are the length of the first part (`Bytes.bigEndian_injective`), so two hashed
strings that agree begin with one and the same part, and what is left agrees as well
(`framed_append_inj`). Everything on lists of parts is the induction on this one step
(`flatMap_framed_inj`).

In the other direction a request enters only through its parts. The only one that looks at the
headers is the body, and of the headers it looks at `Content-Type` alone
(`Headers.values_congr`).

Main statement:

* `Fingerprint.preimage_eq_iff`: two requests are hashed alike exactly when their five parts
  agree; neither the scheme nor any other header has a say, and no byte can move from one part
  to the next unnoticed.
-/

namespace ReplayProxy

/-! ### Headers of one name -/

namespace Headers

/-- The entries whose names agree with a name, in their order. -/
theorem filter_toList_congr {headers headers' : Headers} {name : String}
    (h : ∀ k, Ascii.sameLetters k name = true → headers[k]? = headers'[k]?) :
    headers.toList.filter (fun entry => Ascii.sameLetters entry.1 name) =
      headers'.toList.filter fun entry => Ascii.sameLetters entry.1 name := by
  -- both lists are sorted by names, so it is enough that they have the same members
  let before (a b : String × List String) : Prop := compare a.1 b.1 = .lt
  have : Std.Irrefl before := ⟨fun a ha => by simp [before] at ha⟩
  have : Std.Antisymm before := ⟨fun a b hab hba => by
    have := Std.OrientedCmp.gt_of_lt hab
    rw [show compare b.1 a.1 = .lt from hba] at this
    cases this⟩
  have hsorted (m : Headers) :
      (m.toList.filter fun entry => Ascii.sameLetters entry.1 name).Pairwise before :=
    Std.ExtTreeMap.ordered_keys_toList.filter _
  refine (hsorted headers).eq_of_mem_iff (hsorted headers') fun entry => ?_
  simp only [List.mem_filter]
  refine and_congr_left fun hname => ?_
  rw [Std.ExtTreeMap.mem_toList_iff_getElem?_eq_some,
    Std.ExtTreeMap.mem_toList_iff_getElem?_eq_some, h entry.1 hname]

/-- The values of a header depend only on the entries under its name, in any spelling. -/
theorem values_congr {headers headers' : Headers} {name : String}
    (h : ∀ k, Ascii.sameLetters k name = true → headers[k]? = headers'[k]?) :
    headers.values name = headers'.values name := by
  rw [values, values, ← List.head?_filter, ← List.head?_filter, filter_toList_congr h]

end Headers

namespace Fingerprint

/-! ### Framing -/

/-- The length of a part can be written in eight bytes. -/
def Fits (part : Bytes) : Prop := part.length < 2 ^ 64

instance : DecidablePred Fits := fun part => inferInstanceAs (Decidable (part.length < 2 ^ 64))

/-- What begins with framed parts that agree begins with one part and goes on alike. -/
theorem framed_append_inj {p q s t : Bytes} (hp : Fits p) (hq : Fits q) :
    framed p ++ s = framed q ++ t ↔ p = q ∧ s = t := by
  refine ⟨fun h => ?_, fun ⟨hpq, hst⟩ => by rw [hpq, hst]⟩
  simp only [framed, List.append_assoc] at h
  -- eight bytes of length on either side, and then as many bytes as the length says
  obtain ⟨hlength, h⟩ := List.append_inj h (by simp)
  have hsame : p.length = q.length := Bytes.bigEndian_injective hp hq hlength
  exact List.append_inj h hsame

theorem framed_ne_nil (p : Bytes) : framed p ≠ [] := by
  intro h
  have hlength := congrArg List.length h
  simp [framed] at hlength

/-- **Framed parts are read back**: lists of parts that give the same bytes are the same. -/
theorem flatMap_framed_inj {ps qs : List Bytes} (hps : ∀ p ∈ ps, Fits p) (hqs : ∀ q ∈ qs, Fits q) :
    ps.flatMap framed = qs.flatMap framed ↔ ps = qs := by
  refine ⟨fun h => ?_, fun h => by rw [h]⟩
  induction ps generalizing qs with
  | nil =>
    cases qs with
    | nil => rfl
    | cons q qs =>
      rw [List.flatMap_cons, List.flatMap_nil] at h
      exact absurd (List.append_eq_nil_iff.1 h.symm).1 (framed_ne_nil q)
  | cons p ps ih =>
    cases qs with
    | nil =>
      rw [List.flatMap_cons, List.flatMap_nil] at h
      exact absurd (List.append_eq_nil_iff.1 h).1 (framed_ne_nil p)
    | cons q qs =>
      -- the first part is told from what follows by its length, and the rest is shorter
      rw [List.flatMap_cons, List.flatMap_cons,
        framed_append_inj (hps p List.mem_cons_self) (hqs q List.mem_cons_self)] at h
      obtain ⟨rfl, h⟩ := h
      rw [ih (fun x hx => hps x (List.mem_cons_of_mem _ hx))
        (fun x hx => hqs x (List.mem_cons_of_mem _ hx)) h]

/-! ### The parts of a request -/

/-- The body as the last part: nothing, if there is none. -/
def bodyPart (r : Request) : Bytes := if r.body.isEmpty then [] else normalBody r

/-- The five parts of two requests agree. -/
structure SameParts (r s : Request) : Prop where
  destination : Ascii.lower r.destination = Ascii.lower s.destination
  path : r.path = s.path
  method : r.method = s.method
  query : normalQuery r.query = normalQuery s.query
  body : bodyPart r = bodyPart s

theorem parts_eq_iff {r s : Request} : parts r = parts s ↔ SameParts r s := by
  constructor
  · intro h
    simp only [parts, List.cons.injEq, and_true] at h
    obtain ⟨hdestination, hpath, hmethod, hquery, hbody⟩ := h
    -- a text is determined by its bytes
    exact ⟨Bytes.ofText_injective hdestination, Bytes.ofText_injective hpath,
      Bytes.ofText_injective hmethod, Bytes.ofText_injective hquery, hbody⟩
  · intro h
    have hbody : (if r.body.isEmpty then [] else normalBody r) =
        if s.body.isEmpty then [] else normalBody s := h.body
    rw [parts, parts, h.destination, h.path, h.method, h.query, hbody]

/-- There is one way to ask for nothing. -/
theorem normalQuery_empty : normalQuery "" = "" := by
  have hsegments : segments "" = [] := rfl
  rw [normalQuery, hsegments]
  simp

/-- Of all headers only those under the name `Content-Type` decide how a body is read. -/
theorem normalBody_congr {r : Request} (scheme : String) {headers : Headers}
    (h : ∀ name, Ascii.sameLetters name "Content-Type" = true →
      headers[name]? = r.headers[name]?) :
    normalBody { r with scheme, headers } = normalBody r := by
  have hkind : BodyKind.ofRequest { r with scheme, headers } = BodyKind.ofRequest r := by
    rw [BodyKind.ofRequest, BodyKind.ofRequest, Headers.values_congr h]
  rw [normalBody, normalBody, hkind]

theorem parts_congr {r : Request} (scheme : String) {headers : Headers}
    (h : r.body = [] ∨ ∀ name, Ascii.sameLetters name "Content-Type" = true →
      headers[name]? = r.headers[name]?) :
    parts { r with scheme, headers } = parts r := by
  rw [parts_eq_iff]
  refine ⟨rfl, rfl, rfl, rfl, ?_⟩
  rcases h with hempty | hheaders
  · simp [bodyPart, hempty]
  · rw [bodyPart, bodyPart, normalBody_congr scheme hheaders]

/-- Moving bytes from the end of one part to the beginning of the next makes other parts. -/
theorem ne_of_shift {before after : List Bytes} {a x b : Bytes} (hx : x ≠ []) :
    before ++ (a ++ x) :: b :: after ≠ before ++ a :: (x ++ b) :: after := by
  intro h
  obtain ⟨h, -⟩ := List.cons.inj (List.append_cancel_left h)
  exact hx (List.append_right_eq_self.1 h)

/-- **A fingerprint sees five parts and nothing else.**

* If the lengths of their parts fit into eight bytes, two requests are hashed alike exactly when
  their parts agree.
* Another scheme and other headers change neither what is hashed nor the key, as long as the
  headers agree under `Content-Type` in every spelling, and always when there is no body.
* If bytes move from one part to the next, something else is hashed. -/
theorem preimage_eq_iff :
    (∀ r s : Request, (∀ p ∈ parts r ++ parts s, Fits p) →
      (preimage r = preimage s ↔ SameParts r s)) ∧
    (∀ (r : Request) (scheme : String) (headers : Headers),
      (r.body = [] ∨ ∀ name, Ascii.sameLetters name "Content-Type" = true →
        headers[name]? = r.headers[name]?) →
      preimage { r with scheme, headers } = preimage r ∧
        Request.key { r with scheme, headers } = r.key) ∧
    ∀ r s : Request, (∀ p ∈ parts r ++ parts s, Fits p) →
      ∀ (before after : List Bytes) (a x b : Bytes), x ≠ [] →
        parts r = before ++ (a ++ x) :: b :: after →
          parts s = before ++ a :: (x ++ b) :: after → preimage r ≠ preimage s := by
  -- framing is injective on lists of parts, so the pre-images agree if the parts do
  have hparts : ∀ r s : Request, (∀ p ∈ parts r ++ parts s, Fits p) →
      (preimage r = preimage s ↔ parts r = parts s) := by
    intro r s hfits
    exact flatMap_framed_inj (fun p hp => hfits p (List.mem_append_left _ hp))
      (fun p hp => hfits p (List.mem_append_right _ hp))
  refine ⟨fun r s hfits => ?_, fun r scheme headers h => ?_, ?_⟩
  · rw [hparts r s hfits, parts_eq_iff]
  · -- the parts stay, and the key is a function of what they are hashed to
    have hpreimage : preimage { r with scheme, headers } = preimage r := by
      rw [preimage, preimage, parts_congr scheme h]
    refine ⟨hpreimage, ?_⟩
    rw [Request.key, Request.key, Request.fingerprint, Request.fingerprint, hpreimage]
  · intro r s hfits before after a x b hx hr hs h
    rw [hparts r s hfits, hr, hs] at h
    exact ne_of_shift hx h

/-- A purchase whose body is written with blanks. -/
def purchase : Request where
  method := "POST"
  scheme := "http"
  destination := "Shop.example"
  path := "/cart"
  query := "b=2&&a=1"
  body := Bytes.ofText "[ 1 ]"
  headers := .ofPairs [("content-type", "application/json"), ("Accept", "*/*")]

/-- The purchase over `https`, with the media type alone, and spelled in another way. -/
def tidyPurchase : Request where
  method := "POST"
  scheme := "https"
  destination := "shop.EXAMPLE"
  path := "/cart"
  query := "a=1&b=2"
  body := Bytes.ofText "[1]"
  headers := .ofPairs [("content-type", "application/json")]

theorem lower_purchase : Ascii.lower purchase.destination = "shop.example" := by
  rw [← String.toList_inj, Ascii.toList_lower]
  rfl

theorem normalQuery_purchase : normalQuery purchase.query = "a=1&b=2" := by
  have hsegments : segments purchase.query = ["b=2", "a=1"] := rfl
  rw [normalQuery, hsegments]
  simp [List.mergeSort]

/-- The blanks of the body are not hashed. -/
theorem bodyPart_purchase :
    bodyPart purchase = [0x5B, 0x31, 0x5D] ∧ bodyPart tidyPurchase = [0x5B, 0x31, 0x5D] := by
  decide +kernel

theorem sameParts_purchase : SameParts purchase tidyPurchase where
  destination := by
    rw [lower_purchase, ← String.toList_inj, Ascii.toList_lower]
    rfl
  path := rfl
  method := rfl
  query := by
    have hsegments : segments tidyPurchase.query = ["a=1", "b=2"] := rfl
    rw [normalQuery_purchase, normalQuery, hsegments]
    simp [List.mergeSort]
  body := bodyPart_purchase.1.trans bodyPart_purchase.2.symm

/-- The purchase with the last letter of its path at the beginning of its method. -/
def shiftedPurchase : Request := { purchase with path := "/car", method := "tPOST" }

theorem fits_of_mem_parts_purchase :
    (∀ p ∈ parts purchase, Fits p) ∧ ∀ p ∈ parts shiftedPurchase, Fits p := by
  have hlower : Ascii.lower shiftedPurchase.destination = "shop.example" := lower_purchase
  have hquery : normalQuery shiftedPurchase.query = "a=1&b=2" := normalQuery_purchase
  have hbody : bodyPart shiftedPurchase = [0x5B, 0x31, 0x5D] := bodyPart_purchase.1
  rw [parts, parts, ← bodyPart, ← bodyPart, lower_purchase, hlower, normalQuery_purchase, hquery,
    bodyPart_purchase.1, hbody]
  decide

/-- The two purchases are hashed alike, and the one whose path has lost a letter is not. Without
its body the purchase has the key that it has with no headers at all. -/
theorem preimage_eq_iff_purchase :
    SameParts purchase tidyPurchase ∧ preimage purchase = preimage tidyPurchase ∧
      preimage purchase ≠ preimage shiftedPurchase ∧
        Request.key { purchase with body := [], scheme := "https", headers := ∅ } =
          Request.key { purchase with body := [] } := by
  obtain ⟨hiff, hframe, hshift⟩ := preimage_eq_iff
  obtain ⟨hfits, hshifted⟩ := fits_of_mem_parts_purchase
  have hsame := sameParts_purchase
  refine ⟨hsame, (hiff purchase tidyPurchase ?_).2 hsame, ?_,
    (hframe { purchase with body := [] } "https" ∅ (.inl rfl)).2⟩
  · rw [← parts_eq_iff.2 hsame]
    exact List.forall_mem_append.2 ⟨hfits, hfits⟩
  · -- one byte goes from the end of the path to the beginning of the method
    refine hshift purchase shiftedPurchase (List.forall_mem_append.2 ⟨hfits, hshifted⟩)
      [Bytes.ofText (Ascii.lower purchase.destination)]
      [Bytes.ofText (normalQuery purchase.query), bodyPart purchase]
      (Bytes.ofText "/car") [0x74] (Bytes.ofText "POST") (by decide) ?_ ?_
    · have hpath : Bytes.ofText purchase.path = Bytes.ofText "/car" ++ [0x74] := rfl
      have hmethod : Bytes.ofText purchase.method = Bytes.ofText "POST" := rfl
      rw [parts, hpath, hmethod]
      rfl
    · have hmethod : Bytes.ofText "tPOST" = [0x74] ++ Bytes.ofText "POST" := rfl
      rw [← hmethod]
      rfl

end Fingerprint

end ReplayProxy
