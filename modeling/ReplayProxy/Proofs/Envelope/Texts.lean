import ReplayProxy.Proofs.Envelope

/-!
# Texts lose nothing

Exchanges travel as texts of three kinds: the stored form of one exchange, the archive that is
exported and imported, and the payload that is handed to a transform. A kind of text is *lossless*
(`Json.Lossless`) if every record is read back from its text as it was. That is more than what the
stored form of an exchange needs, since a record may hold what no exchange writes: names of
headers in any spelling, headers without values, a flag that does not fit the body.

The other direction cannot hold: many texts are read as one record. But what is read and written
again is *settled*, and reading and writing it once more changes nothing.

Main statement:

* `Payload.texts_lossless`: the three kinds of texts are lossless, and a payload gives back its
  identifier and, exactly when that is canonical, its exchange.
-/

namespace ReplayProxy

open Json (Value Tree Fault)

namespace Json

variable {α : Type}

/-- Reads a text and writes what was read. -/
def rewrite (text : α → String) (parse : Bytes → Except Fault α) (s : Bytes) :
    Except Fault Bytes :=
  (fun a => Bytes.ofText (text a)) <$> parse s

/-- A kind of text that keeps all of a record. -/
structure Lossless (text : α → String) (parse : Bytes → Except Fault α) : Prop where
  /-- Every record is read back from its text. -/
  reads : ∀ a, parse (Bytes.ofText (text a)) = .ok a
  /-- So no two records have one text. -/
  distinct : ∀ a b, text a = text b → a = b
  /-- What is read and written again is settled. -/
  settles : ∀ s t, rewrite text parse s = .ok t → rewrite text parse t = .ok t

theorem rewrite_eq_ok {text : α → String} {parse : Bytes → Except Fault α} {s t : Bytes}
    (h : rewrite text parse s = .ok t) : ∃ a, parse s = .ok a ∧ t = Bytes.ofText (text a) := by
  unfold rewrite at h
  cases hparse : parse s with
  | error e => rw [hparse] at h; cases h
  | ok a =>
    rw [hparse] at h
    exact ⟨a, rfl, (Except.ok.inj h).symm⟩

/-- It is enough that every record is read back. -/
theorem Lossless.of_reads {text : α → String} {parse : Bytes → Except Fault α}
    (h : ∀ a, parse (Bytes.ofText (text a)) = .ok a) : Lossless text parse where
  reads := h
  distinct a b htext := by
    have hread := h a
    rw [htext, h b] at hread
    exact (Except.ok.inj hread).symm
  settles s t hrewrite := by
    obtain ⟨a, -, rfl⟩ := rewrite_eq_ok hrewrite
    rw [rewrite, h a]
    rfl

end Json

namespace Payload

/-- **Texts lose nothing.** Archives, single exchanges and payloads are read back from their
texts, and what is read and written again is settled. The payload for an exchange is read back
with its identifier, and the exchange in it is the one that it was made for exactly when that is
canonical. -/
theorem texts_lossless :
    Json.Lossless Archive.text Archive.parse ∧
      Json.Lossless (fun f : ExchangeForm => f.toValue.render)
        (Json.decode ExchangeForm.ofTree) ∧
      Json.Lossless Payload.text Payload.parse ∧
      ∀ (x : Exchange) (id : String), ∃ p : Payload,
        Payload.parse (Bytes.ofText (Payload.ofExchange x id).text) = .ok p ∧ p.id = id ∧
          (p.exchange = .ok x ↔ x.Canonical) := by
  refine ⟨.of_reads Archive.parse_text, .of_reads ExchangeForm.decode_bytes,
    .of_reads parse_bytes, fun x id => ⟨ofExchange x id, parse_bytes _, rfl, ?_⟩⟩
  -- the exchange in the payload has canonical headers, whatever it was made for
  have hexchange : (ofExchange x id).exchange = .ok x.canonical :=
    ExchangeForm.exchange_ofExchange x
  constructor
  · exact ExchangeForm.canonical_of_exchange
  · intro hcanonical
    rw [hexchange, Exchange.canonical_eq_self hcanonical]

/-- The text of an archive that lists the fields of its records instead of naming them, with blanks
and with a letter by its number. -/
def listedArchive : Bytes :=
  Bytes.ofText "[ [ [ [null, \"/a\"], [404, \"\\u00e9\"] ] ] ]"

/-- The listed archive is read, and what is written for it is settled. The payload for a compressed
response gives its exchange back. -/
theorem texts_lossless_listed :
    (∃ t, Json.rewrite Archive.text Archive.parse listedArchive = .ok t ∧ t ≠ listedArchive ∧
      Json.rewrite Archive.text Archive.parse t = .ok t) ∧
      Exchange.compressedLogin.Canonical ∧
        ∃ p : Payload,
          Payload.parse (Bytes.ofText (Payload.ofExchange Exchange.compressedLogin "7").text) =
              .ok p ∧
            p.id = "7" ∧ p.exchange = .ok Exchange.compressedLogin := by
  obtain ⟨harchive, -, -, hpayload⟩ := texts_lossless
  have hcanonical : Exchange.compressedLogin.Canonical :=
    ⟨Headers.canonical_ofPairs _, Headers.canonical_ofPairs _⟩
  obtain ⟨p, hparse, hid, hexchange⟩ := hpayload Exchange.compressedLogin "7"
  -- the archive is read, and written in another way than it stood there
  have hread : (Archive.parse listedArchive).toOption.map
      (fun a => decide (Bytes.ofText a.text ≠ listedArchive)) = some true := by
    decide +kernel
  obtain ⟨a, ha, hother⟩ := exists_of_map_toOption hread
  have hrewrite : Json.rewrite Archive.text Archive.parse listedArchive =
      .ok (Bytes.ofText a.text) := by
    rw [Json.rewrite, ha]
    rfl
  exact ⟨⟨_, hrewrite, of_decide_eq_true hother, harchive.settles _ _ hrewrite⟩, hcanonical,
    p, hparse, hid, hexchange.2 hcanonical⟩

end Payload

end ReplayProxy
