import ReplayProxy.Import
import ReplayProxy.Proofs.Fingerprint.Framing

/-!
# What a content type does to a fingerprint

An import gives a request without a content type one that its body suggests, and only then
computes the fingerprint. If the body is a JSON object, the request becomes one with a JSON body,
and what is hashed is no longer the body as it is but its normal form. All other content types
that are filled in leave the body alone. A request is *settled* (`Import.Settled`) when there is
nothing to fill in, or nothing that would show.

Main statement:

* `Import.preimage_fillContentType_iff`: filling in a content type leaves what is hashed exactly
  when the request is settled.
-/

namespace ReplayProxy

open Json (Value)

namespace Fingerprint

/-- Framing alone loses nothing, whatever the length of the part. -/
theorem framed_injective {p q : Bytes} (h : framed p = framed q) : p = q :=
  (List.append_inj h (by simp)).2

/-- A body that is neither JSON nor XML is hashed as it is. -/
theorem bodyPart_of_other {r : Request} (h : BodyKind.ofRequest r = .other) :
    bodyPart r = r.body := by
  rw [bodyPart, normalBody, h]
  by_cases hbody : r.body = [] <;> simp [hbody]

/-- What is hashed begins with the four parts that no header has a say in. -/
theorem preimage_eq_append (r : Request) :
    preimage r = (parts { r with headers := ∅, body := [] }).dropLast.flatMap framed ++
      framed (bodyPart r) := by
  simp [preimage, parts, bodyPart]

/-! ### Requests that differ in their bodies alone -/

/-- Two requests agree in all that is hashed but their bodies. -/
structure SameTarget (r s : Request) : Prop where
  method : r.method = s.method
  destination : r.destination = s.destination
  path : r.path = s.path
  query : r.query = s.query

theorem SameTarget.trans {r s t : Request} (h : SameTarget r s) (h' : SameTarget s t) :
    SameTarget r t where
  method := h.method.trans h'.method
  destination := h.destination.trans h'.destination
  path := h.path.trans h'.path
  query := h.query.trans h'.query

/-- What is hashed for them is equal exactly if their bodies take part alike. -/
theorem SameTarget.preimage_eq_iff_bodyPart {r s : Request} (h : SameTarget r s) :
    preimage r = preimage s ↔ bodyPart r = bodyPart s := by
  have hfront : (parts { r with headers := ∅, body := [] }).dropLast =
      (parts { s with headers := ∅, body := [] }).dropLast := by
    simp [parts, h.method, h.destination, h.path, h.query]
  rw [preimage_eq_append, preimage_eq_append s, hfront]
  constructor
  · exact fun heq => framed_injective (List.append_cancel_left heq)
  · exact fun heq => by rw [heq]

/-- So they have one key then. -/
theorem SameTarget.key_eq {r s : Request} (h : SameTarget r s) (hbody : bodyPart r = bodyPart s) :
    r.key = s.key := by
  rw [Request.key, Request.key, Request.fingerprint, Request.fingerprint,
    h.preimage_eq_iff_bodyPart.2 hbody]

end Fingerprint

namespace BodyKind

/-- The kind in terms of characters, which can be computed. -/
theorem ofMediaType?_eq (value : String) :
    ofMediaType? value =
      let cs := (Blank.trimList value.toList).map Char.toLower
      if names ['j', 's', 'o', 'n'] cs then some .json
      else if names ['x', 'm', 'l'] cs then some .xml
      else none := by
  rw [ofMediaType?, Ascii.toList_lower, Blank.trim, String.toList_ofList]

end BodyKind

namespace Import

/-- If the request has no content type and its body is a JSON object, then the body is written
in normal form. -/
def Settled (r : Request) : Prop :=
  r.headers.first? "Content-Type" = none →
    ∀ ms, Value.parse r.body = .ok (.object ms) → (Value.object ms).bytes = r.body

/-- Only a JSON object suggests JSON. -/
theorem exists_object_of_sniff {body : Bytes} (h : sniffContentType body = "application/json") :
    ∃ ms, Value.parse body = .ok (.object ms) := by
  unfold sniffContentType at h
  split at h
  · next ms hparse => exact ⟨ms, hparse⟩
  · split at h <;> simp at h

/-- A request that has a content type stays as it is. -/
theorem fillContentType_of_some {r : Request} {value : String}
    (h : r.headers.first? "Content-Type" = some value) : fillContentType r = r := by
  rw [fillContentType, h]

/-- A content type does not change where a request goes. -/
theorem sameTarget_fillContentType (r : Request) :
    Fingerprint.SameTarget (fillContentType r) r := by
  unfold fillContentType
  split <;> exact ⟨rfl, rfl, rfl, rfl⟩

section Unmarked

variable {r : Request}

/-- Without a content type the body is hashed as it is. -/
theorem bodyPart_of_none (h : r.headers.first? "Content-Type" = none) :
    Fingerprint.bodyPart r = r.body := by
  have hvalues : r.headers.values "Content-Type" = [] := List.head?_eq_none_iff.1 h
  have hkind : BodyKind.ofRequest r = .other := by
    rw [BodyKind.ofRequest, hvalues]
    rfl
  exact Fingerprint.bodyPart_of_other hkind

/-- The content type that is filled in decides alone how the body is read. -/
theorem ofRequest_fillContentType (hr : r.headers.Canonical)
    (h : r.headers.first? "Content-Type" = none) :
    BodyKind.ofRequest (fillContentType r) =
      (BodyKind.ofMediaType? (sniffContentType r.body)).getD .other := by
  have hvalues : r.headers.values "Content-Type" = [] := List.head?_eq_none_iff.1 h
  have hfilled : (fillContentType r).headers.values "Content-Type" =
      [sniffContentType r.body] := by
    rw [fillContentType, h]
    show (r.headers.add "Content-Type" (sniffContentType r.body)).values "Content-Type" = _
    rw [hr.values_add, hvalues, List.nil_append]
  -- the value that was added is the only one, so it is the one that tells
  rw [BodyKind.ofRequest, hfilled, List.findSome?_singleton]

theorem body_fillContentType (r : Request) : (fillContentType r).body = r.body := by
  unfold fillContentType
  split <;> rfl

/-- A JSON object is hashed in its normal form when the content type is filled in. -/
theorem bodyPart_fillContentType_object (hr : r.headers.Canonical)
    (h : r.headers.first? "Content-Type" = none) {ms : List (String × Value)}
    (hparse : Value.parse r.body = .ok (.object ms)) :
    Fingerprint.bodyPart (fillContentType r) = (Value.object ms).bytes := by
  have hsniff : sniffContentType r.body = "application/json" := by rw [sniffContentType, hparse]
  have hkind : BodyKind.ofRequest (fillContentType r) = .json := by
    rw [ofRequest_fillContentType hr h, hsniff, BodyKind.ofMediaType?_eq]
    decide +kernel
  -- an empty body is not normalized, but it is no object either
  have hbody : r.body ≠ [] := by
    intro hempty
    have hnone : (Value.parse []).toOption.isNone = true := by decide +kernel
    rw [hempty] at hparse
    simp [hparse, Except.toOption] at hnone
  rw [Fingerprint.bodyPart, Fingerprint.normalBody, hkind, body_fillContentType]
  simp [hbody, hparse]

/-- Any other body is hashed as it is. -/
theorem bodyPart_fillContentType_other (hr : r.headers.Canonical)
    (h : r.headers.first? "Content-Type" = none)
    (hparse : ∀ ms, Value.parse r.body ≠ .ok (.object ms)) :
    Fingerprint.bodyPart (fillContentType r) = r.body := by
  have hkind : BodyKind.ofRequest (fillContentType r) = .other := by
    rw [ofRequest_fillContentType hr h]
    unfold sniffContentType
    split
    · next ms hobject => exact absurd hobject (hparse ms)
    · rw [BodyKind.ofMediaType?_eq]
      cases r.body.isText <;> decide +kernel
  rw [Fingerprint.bodyPart_of_other hkind, body_fillContentType]

end Unmarked

/-- **A content type that is filled in shows in the fingerprint of an unsettled request, and of
no other.** -/
theorem preimage_fillContentType_iff {r : Request} (hr : r.headers.Canonical) :
    Fingerprint.preimage (fillContentType r) = Fingerprint.preimage r ↔ Settled r := by
  rw [(sameTarget_fillContentType r).preimage_eq_iff_bodyPart]
  cases hfirst : r.headers.first? "Content-Type" with
  | some value =>
    rw [fillContentType_of_some hfirst]
    exact ⟨fun _ hnone => by simp [hfirst] at hnone, fun _ => rfl⟩
  | none =>
    rw [bodyPart_of_none hfirst]
    -- only the normal form of a JSON object can differ from the body
    by_cases hobject : ∃ ms, Value.parse r.body = .ok (.object ms)
    · obtain ⟨ms, hparse⟩ := hobject
      rw [bodyPart_fillContentType_object hr hfirst hparse]
      refine ⟨fun hsame _ ms' hparse' => ?_, fun hsettled => hsettled hfirst ms hparse⟩
      obtain rfl : ms = ms' := by simpa [hparse] using hparse'
      exact hsame
    · have hnone : ∀ ms, Value.parse r.body ≠ .ok (.object ms) :=
        fun ms hparse => hobject ⟨ms, hparse⟩
      rw [bodyPart_fillContentType_other hr hfirst hnone]
      exact ⟨fun _ _ ms hparse => absurd hparse (hnone ms), fun _ => rfl⟩

/-- So a settled request keeps its key. -/
theorem key_fillContentType {r : Request} (hr : r.headers.Canonical) (h : Settled r) :
    (fillContentType r).key = r.key := by
  rw [Request.key, Request.key, Request.fingerprint, Request.fingerprint,
    (preimage_fillContentType_iff hr).2 h]

end Import

end ReplayProxy
