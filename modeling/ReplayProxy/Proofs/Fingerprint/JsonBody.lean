import ReplayProxy.Proofs.Fingerprint.ContentType
import ReplayProxy.Proofs.Json.Reordering

/-!
# JSON bodies in fingerprints

A body of JSON takes part in the fingerprint as what is written for the value that is read from it.
If its numbers are integers, this is exact: the normal form of the body says what the body means,
no more and no less. Two bodies have one normal form exactly when they mean the same, however they
are laid out and whatever is overwritten in them by a later member of the same name.

That bodies which mean the same have one normal form needs no more than that the value is
determined by the meaning. The other direction rests on the normal form being read back as the
value; for the same reason it is never the text of a body that cannot be read.

Main statement:

* `Fingerprint.normalBody_exact`: what is hashed for JSON bodies with integers is equal exactly if
  the bodies mean the same.
-/

namespace ReplayProxy

open Json (Value Meaning)
open Json.Document (Denotes Relaid)

namespace Json.Value

/-! ### Numbers that are integers can be recognised -/

mutual

/-- Whether all numbers in the value are integers. -/
def decideWhole : (v : Value) → Decidable v.Whole
  | .null => .isTrue trivial
  | .boolean _ => .isTrue trivial
  | .number (.int _) => .isTrue trivial
  | .number (.real _) => .isFalse id
  | .string _ => .isTrue trivial
  | .array items => decideWholeItems items
  | .object members => decideWholeMembers members

/-- Whether all numbers in the elements are integers. -/
def decideWholeItems : (vs : List Value) → Decidable (WholeItems vs)
  | [] => .isTrue trivial
  | v :: rest => @instDecidableAnd _ _ (decideWhole v) (decideWholeItems rest)

/-- Whether all numbers in the values of the members are integers. -/
def decideWholeMembers : (ms : List (String × Value)) → Decidable (WholeMembers ms)
  | [] => .isTrue trivial
  | (_, v) :: rest => @instDecidableAnd _ _ (decideWhole v) (decideWholeMembers rest)

end

instance : DecidablePred Whole := decideWhole

end Json.Value

namespace Fingerprint

/-! ### Normal forms of JSON -/

/-- The normal form of a body that is read as JSON. -/
theorem normalBody_of_parse {r : Request} (hr : BodyKind.ofRequest r = .json) {v : Value}
    (h : Value.parse r.body = .ok v) : normalBody r = v.bytes := by
  rw [normalBody, hr]
  simp only [h]

/-- A body that cannot be read is its own normal form. -/
theorem normalBody_of_rejected {r : Request} (hr : BodyKind.ofRequest r = .json)
    (h : ∀ v, Value.parse r.body ≠ .ok v) : normalBody r = r.body := by
  rw [normalBody, hr]
  cases hparse : Value.parse r.body with
  | error e => rfl
  | ok v => exact absurd hparse (h v)

/-- An empty body cannot be read, so it takes part as all others do. -/
theorem bodyPart_of_json {r : Request} (hr : BodyKind.ofRequest r = .json) :
    bodyPart r = normalBody r := by
  rw [bodyPart]
  by_cases hbody : r.body = []
  · have hnone : (Value.parse []).toOption.isNone = true := by decide +kernel
    rw [normalBody_of_rejected hr]
    · simp [hbody]
    · intro v hparse
      rw [hbody] at hparse
      simp [hparse, Except.toOption] at hnone
  · rw [if_neg (by simpa using hbody)]

/-! ### Normal forms and meanings -/

section

variable {r s : Request} (hr : BodyKind.ofRequest r = .json) (hs : BodyKind.ofRequest s = .json)
include hr hs

/-- Two bodies have one normal form exactly when they mean the same. -/
theorem normalBody_eq_iff_denotes {v w : Value} (hv : Value.parse r.body = .ok v)
    (hw : Value.parse s.body = .ok w) (hvwhole : v.Whole) (hwwhole : w.Whole) :
    normalBody r = normalBody s ↔ ∃ m, Denotes r.body m ∧ Denotes s.body m := by
  obtain ⟨m, hm, hmeans⟩ := Value.denotes_of_parse hv
  obtain ⟨m', hm', hmeans'⟩ := Value.denotes_of_parse hw
  rw [normalBody_of_parse hr hv, normalBody_of_parse hs hw]
  constructor
  · intro hbytes
    -- both values are read from the one normal form
    have hsame := Value.parse_bytes hv hvwhole
    rw [hbytes, Value.parse_bytes hw hwwhole] at hsame
    obtain rfl := Except.ok.inj hsame
    have hmeaning : m = m' := (hmeans hvwhole).symm.trans (hmeans' hwwhole)
    exact ⟨m, hm, hmeaning ▸ hm'⟩
  · rintro ⟨m₀, hm₀, hm₀'⟩
    have hmeaning : v.meaning = w.meaning := by
      rw [hmeans hvwhole, hmeans' hwwhole, hm.unique hm₀, hm'.unique hm₀']
    rw [Value.meaning_injective v w hvwhole hwwhole (Value.normal_of_parse hv)
      (Value.normal_of_parse hw) hmeaning]

/-- A body that is laid out differently has the same normal form. -/
theorem normalBody_of_relaid {v : Value} (hv : Value.parse r.body = .ok v)
    (h : Relation.ReflTransGen Relaid r.body s.body) : normalBody r = normalBody s := by
  rw [normalBody_of_parse hr hv, normalBody_of_parse hs (Value.parse_of_relaid h hv)]

/-- A body that cannot be read is not the normal form of another one. -/
theorem normalBody_ne_of_rejected {w : Value} (hrejected : ∀ v, Value.parse r.body ≠ .ok v)
    (hw : Value.parse s.body = .ok w) (hwhole : w.Whole) : normalBody r ≠ normalBody s := by
  rw [normalBody_of_rejected hr hrejected, normalBody_of_parse hs hw]
  intro hbytes
  have hread := Value.parse_bytes hw hwhole
  rw [← hbytes] at hread
  exact hrejected w hread

end

/-- **Normal forms of JSON are exact.** Of two requests with JSON bodies,

* if both bodies are read and the numbers of their values are integers, then the normal forms are
  equal exactly when the bodies mean the same;
* if one body is read and the other one is laid out differently, by any number of changes to
  blanks and to the order of members with distinct names, then the normal forms are equal;
* if one body cannot be read and the other one is read with integers, then the normal forms are
  different;
* and if the requests differ in their bodies alone, then what is hashed is equal exactly when the
  normal forms are, and so are the keys. -/
theorem normalBody_exact {r s : Request} (hr : BodyKind.ofRequest r = .json)
    (hs : BodyKind.ofRequest s = .json) :
    (∀ v w, Value.parse r.body = .ok v → Value.parse s.body = .ok w → v.Whole → w.Whole →
      (normalBody r = normalBody s ↔ ∃ m, Denotes r.body m ∧ Denotes s.body m)) ∧
    (∀ v, Value.parse r.body = .ok v → Relation.ReflTransGen Relaid r.body s.body →
      normalBody r = normalBody s) ∧
    (∀ w, (∀ v, Value.parse r.body ≠ .ok v) → Value.parse s.body = .ok w → w.Whole →
      normalBody r ≠ normalBody s) ∧
    (SameTarget r s → (preimage r = preimage s ↔ normalBody r = normalBody s) ∧
      (normalBody r = normalBody s → r.key = s.key)) := by
  refine ⟨fun _ _ => normalBody_eq_iff_denotes hr hs, fun _ => normalBody_of_relaid hr hs,
    fun _ => normalBody_ne_of_rejected hr hs, fun hsame => ?_⟩
  -- with one target the two requests can differ in their bodies only
  have hpreimage : preimage r = preimage s ↔ normalBody r = normalBody s := by
    rw [hsame.preimage_eq_iff_bodyPart, bodyPart_of_json hr, bodyPart_of_json hs]
  refine ⟨hpreimage, fun hnormal => ?_⟩
  rw [Request.key, Request.key, Request.fingerprint, Request.fingerprint, hpreimage.2 hnormal]

/-- The purchase with another body. -/
def purchaseOf (body : String) : Request := { purchase with body := Bytes.ofText body }

theorem ofRequest_purchaseOf (body : String) : BodyKind.ofRequest (purchaseOf body) = .json := by
  have hkind : BodyKind.ofRequest purchase = .json := by decide +kernel
  exact hkind

/-- A member that is written twice means what the last one means and nothing else; blanks make no
difference to the key; and a text that breaks off has a normal form of its own. -/
theorem normalBody_exact_purchaseOf :
    (∃ m, Denotes (purchaseOf "\x7b\"a\":1,\"a\":2\x7d").body m ∧
        Denotes (purchaseOf "\x7b \"a\":2\x7d").body m) ∧
      (¬∃ m, Denotes (purchaseOf "\x7b\"a\":1,\"a\":2\x7d").body m ∧
        Denotes (purchaseOf "\x7b\"a\":1\x7d").body m) ∧
      (purchaseOf "[1,2]").key = (purchaseOf "[1 ,2]").key ∧
      normalBody (purchaseOf "[1,2") ≠ normalBody (purchaseOf "[1,2]") := by
  have hwhole : ∀ body, (Value.parse (purchaseOf body).body).toOption.map
      (fun v => decide v.Whole) = some true →
        ∃ v, Value.parse (purchaseOf body).body = .ok v ∧ v.Whole := by
    intro body h
    obtain ⟨v, hv, hdecide⟩ := exists_of_map_toOption h
    exact ⟨v, hv, of_decide_eq_true hdecide⟩
  obtain ⟨v, hv, hvwhole⟩ := hwhole "\x7b\"a\":1,\"a\":2\x7d" (by decide +kernel)
  obtain ⟨w, hw, hwwhole⟩ := hwhole "\x7b \"a\":2\x7d" (by decide +kernel)
  obtain ⟨u, hu, huwhole⟩ := hwhole "\x7b\"a\":1\x7d" (by decide +kernel)
  obtain ⟨x, hx, hxwhole⟩ := hwhole "[1,2]" (by decide +kernel)
  have hrelaid : Relaid (purchaseOf "[1,2]").body (purchaseOf "[1 ,2]").body := by
    -- the place between the number and the comma
    have hplace : Json.Token.Boundary ([0x5B, 0x31] ++ ([] ++ [0x2C, 0x32, 0x5D]))
        ([] ++ [0x2C, 0x32, 0x5D]) :=
      .next (t := .openArray) (u := [0x31, 0x2C, 0x32, 0x5D]) (by decide +kernel)
        (.next (t := .number ⟨false, [1], [], none⟩) (by decide +kernel) (.here _))
    have hspace : Json.Blanks [0x20] := by simp [Json.Blanks, Json.isSpace]
    have hstep := Relaid.blanks (by simp [Json.Blanks]) hspace hplace
    exact hstep
  have hrejected : ∀ v, Value.parse (purchaseOf "[1,2").body ≠ .ok v := by
    intro v hparse
    have hnone : (Value.parse (purchaseOf "[1,2").body).toOption.isNone = true := by decide +kernel
    simp [hparse, Except.toOption] at hnone
  have hkind := ofRequest_purchaseOf
  refine ⟨?_, ?_, ?_, ?_⟩
  · exact ((normalBody_exact (hkind _) (hkind _)).1 v w hv hw hvwhole hwwhole).1 (by decide +kernel)
  · -- a common meaning would make the normal forms one, and they are two
    intro hsame
    have hequal := ((normalBody_exact (hkind _) (hkind _)).1 v u hv hu hvwhole huwhole).2 hsame
    revert hequal
    decide +kernel
  · obtain ⟨-, hlayout, -, hkey⟩ :=
      normalBody_exact (hkind "[1,2]") (hkind "[1 ,2]")
    exact (hkey ⟨rfl, rfl, rfl, rfl⟩).2 (hlayout x hx (.single hrelaid))
  · exact (normalBody_exact (hkind "[1,2") (hkind "[1,2]")).2.2.1 x hrejected hx hxwhole

end Fingerprint

end ReplayProxy
