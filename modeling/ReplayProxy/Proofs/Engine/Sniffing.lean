import ReplayProxy.Proofs.Engine.Importing
import ReplayProxy.Proofs.Fingerprint.JsonBody

/-!
# Imported bodies and live bodies

An import fills in content types so that what it stores is found again by live requests. For that
the import and the proxy have to take a body for the same thing. A live request that says
`application/json` has its body put into normal form, whatever JSON value it is. An import takes a
body for JSON only if it is an *object*; any other value is stored as text, and its body is hashed
as it is written.

So an object is found by every live request that *repeats* the imported one as JSON
(`Import.Repeats`), with other blanks or with its members in another order. A list, a string, a
number, a boolean or `null` is found by it only if the imported body was in normal form already.

Main statement:

* `Import.prepare_meets_live`: when what is hashed for an entry is what is hashed for a live
  request that repeats it.
-/

namespace ReplayProxy.Import

open Fingerprint (SameTarget bodyPart preimage)
open Json (Tree Value)
open Json.Document (Rearranged Writes)

/-- The live request repeats the other one as JSON: it goes to the same target, says that its body
is JSON, and its body is the other one rearranged. -/
structure Repeats (r live : Request) : Prop where
  target : SameTarget r live
  marked : live.headers.first? "Content-Type" = some "application/json"
  body : Relation.ReflTransGen Rearranged r.body live.body

theorem ofRequest_of_marked {live : Request}
    (h : live.headers.first? "Content-Type" = some "application/json") :
    BodyKind.ofRequest live = .json := by
  -- the first value decides, since it is one that is known
  obtain ⟨rest, hvalues⟩ := List.head?_eq_some_iff.1 h
  have hkind : BodyKind.ofMediaType? "application/json" = some .json := by
    rw [BodyKind.ofMediaType?_eq]
    decide +kernel
  rw [BodyKind.ofRequest, hvalues, List.findSome?_cons, hkind]
  rfl

section Unmarked

variable {r : Request} {v : Value}

/-- The body of a live request takes part in the normal form of the value. -/
theorem Repeats.bodyPart_eq {live : Request} (h : Repeats r live)
    (hv : Value.parse r.body = .ok v) : bodyPart live = v.bytes := by
  have hkind := ofRequest_of_marked h.marked
  rw [Fingerprint.bodyPart_of_json hkind,
    Fingerprint.normalBody_of_parse hkind (Value.parse_of_rearranged h.body hv)]

theorem sniffContentType_eq_json_iff (hv : Value.parse r.body = .ok v) :
    sniffContentType r.body = "application/json" ↔ ∃ ms, v = .object ms := by
  constructor
  · intro hsniff
    obtain ⟨ms, hobject⟩ := exists_object_of_sniff hsniff
    exact ⟨ms, Except.ok.inj (hv.symm.trans hobject)⟩
  · rintro ⟨ms, rfl⟩
    rw [sniffContentType, hv]

/-- With the content type that is filled in, the body takes part in the normal form of the value
if this is an object; otherwise the body takes part as it is, which may be the normal form. -/
theorem bodyPart_fillContentType_eq_iff (hr : r.headers.Canonical)
    (hnone : r.headers.first? "Content-Type" = none) (hv : Value.parse r.body = .ok v) :
    bodyPart (fillContentType r) = v.bytes ↔ (∃ ms, v = .object ms) ∨ v.bytes = r.body := by
  by_cases hobject : ∃ ms, v = .object ms
  · obtain ⟨ms, rfl⟩ := hobject
    exact iff_of_true (bodyPart_fillContentType_object hr hnone hv) (.inl ⟨ms, rfl⟩)
  · have hother : ∀ ms, Value.parse r.body ≠ .ok (.object ms) := by
      intro ms hparse
      exact hobject ⟨ms, Except.ok.inj (hv.symm.trans hparse)⟩
    rw [bodyPart_fillContentType_other hr hnone hother, or_iff_right hobject, eq_comm]

theorem Repeats.preimage_iff {live : Request} (h : Repeats r live) (hr : r.headers.Canonical)
    (hnone : r.headers.first? "Content-Type" = none) (hv : Value.parse r.body = .ok v) :
    preimage (fillContentType r) = preimage live ↔
      (∃ ms, v = .object ms) ∨ v.bytes = r.body := by
  have hsame : SameTarget (fillContentType r) live :=
    (sameTarget_fillContentType r).trans h.target
  rw [hsame.preimage_eq_iff_bodyPart, h.bodyPart_eq hv, bodyPart_fillContentType_eq_iff hr hnone hv]

end Unmarked

/-- **Imported JSON and live JSON.** Take an entry of an archive, wherever it stands, that has no
content type and whose body is JSON, and a live request that repeats it as JSON. Then

* the entry is stored under the fingerprint that it has with its content type filled in;
* what is filled in is `application/json` exactly if the value is an object;
* what is hashed for the entry is what is hashed for the live request exactly if the value is an
  object or the body of the entry is written in normal form;
* and in these cases the entry is stored under the fingerprint of the live request. -/
theorem prepare_meets_live {f : ExchangeForm} {x : Exchange} (hf : f.exchange = .ok x)
    (hnone : x.request.headers.first? "Content-Type" = none) {v : Value}
    (hv : Value.parse x.request.body = .ok v) {live : Request} (hlive : Repeats x.request live)
    (before after : List ExchangeForm) :
    prepare ⟨before ++ f :: after⟩ =
        .ok ((entries before).1 ++ ((filled x).request.fingerprint, filled x) :: (entries after).1,
          (entries before).2 + (entries after).2) ∧
      ((filled x).request.headers.values "Content-Type" = ["application/json"] ↔
        ∃ ms, v = .object ms) ∧
      (preimage (filled x).request = preimage live ↔
        (∃ ms, v = .object ms) ∨ v.bytes = x.request.body) ∧
      ((∃ ms, v = .object ms) ∨ v.bytes = x.request.body →
        (filled x).request.fingerprint = live.fingerprint) := by
  have hr : x.request.headers.Canonical := (ExchangeForm.canonical_of_exchange hf).request
  have hpreimage := hlive.preimage_iff hr hnone hv
  refine ⟨?_, ?_, hpreimage, fun hcase => ?_⟩
  · -- the forms around it are prepared on their own
    have hentries : entries (f :: after) =
        (((filled x).request.fingerprint, filled x) :: (entries after).1, (entries after).2) := by
      rw [entries, entry_of_ok hf]
    rw [prepare, if_neg (by simp), entries_append, hentries]
  · have hgiven : (filled x).request.headers.values "Content-Type" =
        [sniffContentType x.request.body] := (fills_fillContentType hr).given hnone
    rw [hgiven, List.singleton_inj, sniffContentType_eq_json_iff hv]
  · have hsame : preimage (filled x).request = preimage live := hpreimage.2 hcase
    rw [Request.fingerprint, Request.fingerprint, hsame]

/-- An entry without a content type. -/
def unmarkedForm (body : String) : ExchangeForm where
  request := { method := "POST", destination := "a", path := "/", body }
  response := { status := 200 }

/-- A live request to the same target that says that its body is JSON. -/
def liveJson (body : String) : Request where
  method := "POST"
  destination := "a"
  path := "/"
  body := Bytes.ofText body
  headers := .ofPairs [("Content-Type", "application/json")]

theorem exchange_unmarkedForm (body : String) :
    ∃ x, (unmarkedForm body).exchange = .ok x ∧ x.request.body = Bytes.ofText body ∧
      x.request.headers.first? "Content-Type" = none ∧
      ∀ body', SameTarget x.request (liveJson body') :=
  ⟨_, rfl, rfl, rfl, fun _ => ⟨rfl, rfl, rfl, rfl⟩⟩

theorem first?_liveJson (body : String) :
    (liveJson body).headers.first? "Content-Type" = some "application/json" := by
  have hfirst : (liveJson "").headers.first? "Content-Type" = some "application/json" := by
    decide +kernel
  exact hfirst

/-- An object is found by a live request with other blanks and another order of the members. -/
theorem prepare_meets_live_object :
    ∃ x, (unmarkedForm "\x7b\"a\":1,\"b\":[]\x7d").exchange = .ok x ∧
      x.request.headers.first? "Content-Type" = none ∧
      (∃ ms, Value.parse x.request.body = .ok (.object ms)) ∧
      Repeats x.request (liveJson "\x7b \"b\": [], \"a\": 1 \x7d") ∧
      (filled x).request.fingerprint =
        (liveJson "\x7b \"b\": [], \"a\": 1 \x7d").fingerprint := by
  obtain ⟨x, hx, hbody, hnone, htarget⟩ := exchange_unmarkedForm "\x7b\"a\":1,\"b\":[]\x7d"
  -- the two members as they are written, in both orders
  have hwrites : Writes (Bytes.ofText "\x7b\"a\":1,\"b\":[]\x7d")
      (.object [(some "a", .number ⟨false, [1], [], none⟩), (some "b", .array [] true)] true) :=
    ⟨by simp [Tree.Complete, Tree.CompleteMembers, Tree.CompleteItems], by decide +kernel⟩
  have hwrites' : Writes (Bytes.ofText "\x7b \"b\": [], \"a\": 1 \x7d")
      (.object [(some "b", .array [] true), (some "a", .number ⟨false, [1], [], none⟩)] true) :=
    ⟨by simp [Tree.Complete, Tree.CompleteMembers, Tree.CompleteItems], by decide +kernel⟩
  have hrearranged : Rearranged x.request.body
      (liveJson "\x7b \"b\": [], \"a\": 1 \x7d").body := by
    rw [hbody]
    refine .members hwrites hwrites' (.single ?_)
    exact @Tree.Exchanged.here [] [] (some "a", _) (some "b", _) true (by decide)
  have hlive : Repeats x.request (liveJson "\x7b \"b\": [], \"a\": 1 \x7d") :=
    ⟨htarget _, first?_liveJson _, .single hrearranged⟩
  -- an object is what the content type is guessed for
  obtain ⟨ms, hms⟩ : ∃ ms, Value.parse x.request.body = .ok (.object ms) := by
    refine exists_object_of_sniff ?_
    rw [hbody]
    decide +kernel
  obtain ⟨-, -, -, hmeets⟩ := prepare_meets_live hx hnone hms hlive [] []
  exact ⟨x, hx, hnone, ⟨ms, hms⟩, hlive, hmeets (.inl ⟨ms, rfl⟩)⟩

/-- The list with a blank in it is read, and its normal form has no blank. -/
theorem parse_list :
    ∃ v, Value.parse (Bytes.ofText "[1, 2]") = .ok v ∧ v.bytes = Bytes.ofText "[1,2]" ∧
      ∀ ms, v ≠ .object ms := by
  have hread : (Value.parse (Bytes.ofText "[1, 2]")).toOption.map Value.bytes =
      some (Bytes.ofText "[1,2]") := by decide +kernel
  have hsniff : sniffContentType (Bytes.ofText "[1, 2]") ≠ "application/json" := by
    decide +kernel
  obtain ⟨v, hv, hbytes⟩ := exists_of_map_toOption hread
  refine ⟨v, hv, hbytes, ?_⟩
  rintro ms rfl
  exact hsniff (by rw [sniffContentType, hv])

/-- A list that is written with a blank is stored under another fingerprint than that of a live
request with the very same body. -/
theorem prepare_misses_list :
    ∃ x, (unmarkedForm "[1, 2]").exchange = .ok x ∧
      x.request.headers.first? "Content-Type" = none ∧
      (∃ v, Value.parse x.request.body = .ok v) ∧ Repeats x.request (liveJson "[1, 2]") ∧
      prepare ⟨[unmarkedForm "[1, 2]"]⟩ =
        .ok ([((filled x).request.fingerprint, filled x)], 0) ∧
      (filled x).request.fingerprint ≠ (liveJson "[1, 2]").fingerprint := by
  obtain ⟨x, hx, hbody, hnone, htarget⟩ := exchange_unmarkedForm "[1, 2]"
  obtain ⟨v, hv, hbytes, hother⟩ := parse_list
  rw [← hbody] at hv
  have hlive : Repeats x.request (liveJson "[1, 2]") :=
    ⟨htarget _, first?_liveJson _, by rw [hbody]; exact .refl⟩
  have hprepare : prepare ⟨[unmarkedForm "[1, 2]"]⟩ =
      .ok ([((filled x).request.fingerprint, filled x)], 0) := by
    rw [prepare, if_neg (by simp), entries, entry_of_ok hx]
    rfl
  refine ⟨x, hx, hnone, ⟨v, hv⟩, hlive, hprepare, ?_⟩
  -- the one body is hashed with the blank, the other one without it
  have hfilled : bodyPart (filled x).request = Bytes.ofText "[1, 2]" := by
    have hr : x.request.headers.Canonical := (ExchangeForm.canonical_of_exchange hx).request
    rw [filled, bodyPart_fillContentType_other hr hnone, hbody]
    exact fun ms hparse => hother ms (Except.ok.inj (hv.symm.trans hparse))
  have hlived : bodyPart (liveJson "[1, 2]") = Bytes.ofText "[1,2]" := by
    rw [hlive.bodyPart_eq hv, hbytes]
  have hlivedTarget : SameTarget (liveJson "[1, 2]") Engine.spaced := ⟨rfl, rfl, rfl, rfl⟩
  have hfilledTarget : SameTarget (filled x).request Engine.spaced :=
    ((sameTarget_fillContentType x.request).trans (htarget _)).trans hlivedTarget
  -- both fingerprints are digests of closed texts now
  rw [Request.fingerprint, Request.fingerprint, preimage, preimage,
    Engine.parts_of_spaced hfilledTarget, Engine.parts_of_spaced hlivedTarget, hfilled, hlived]
  decide +kernel

end ReplayProxy.Import
