import ReplayProxy.Certificate.Root
import ReplayProxy.Proofs.Certificate.Elements

/-!
# What is public about a key reads back

A key that was written and is read has the public part that it had, and a certificate that
was written and is read states the public part that it stated. Both readers check much
besides, and what they check is left to them here: the statements say what comes out
whenever something does.

Main statements:

* `PrivateKey.publicInfo_of_ofBytes`: keys.
* `Certificate.publicInfo_of_ofBytes?`: certificates, whatever their signature.
-/

namespace ReplayProxy

open Der (row Element IsLow)

namespace PrivateKey

variable {k k' : PrivateKey}

/-! ### How a key is written -/

/-- The elements of the kind of a key. -/
def kindRow : PrivateKey → List Element
  | .rsa .. => [⟨0x06, rsaId⟩, ⟨0x05, []⟩]
  | .ecdsa .. => [⟨0x06, curveId⟩, ⟨0x06, p256Id⟩]

/-- An integer as an element. -/
def integerElement (n : Nat) : Element := ⟨0x02, Der.integerBytes n⟩

@[simp] theorem natural?_integerElement (n : Nat) : (integerElement n).natural? = some n :=
  Der.natural?_integer n

theorem mapM_natural? (ns : List Nat) :
    (ns.map integerElement).mapM Element.natural? = some ns := by
  induction ns with
  | nil => rfl
  | cons n ns ih => simp [List.mapM_cons, ih]

/-- The elements of a key in the form of its kind, PKCS #1 or SEC 1. -/
def innerRow : PrivateKey → List Element
  | .rsa n e d p q =>
    [0, n, e, d, p, q, d % (p - 1), d % (q - 1), (Modular.inverse? q p).getD 0].map integerElement
  | .ecdsa secret point =>
    [integerElement 1, ⟨0x04, Bytes.bigEndian 32 secret⟩,
      ⟨0xA1, Der.bits (pointBytes point)⟩]

/-- The elements of a key in the form of PKCS #8. -/
def outerRow (k : PrivateKey) : List Element :=
  [integerElement 0, ⟨0x30, row k.kindRow⟩, ⟨0x04, Der.element 0x30 (row k.innerRow)⟩]

theorem bytes_eq (k : PrivateKey) : k.bytes = Der.element 0x30 (row k.outerRow) := by
  cases k <;> rfl

/-- What is public about a key, as an element. -/
def publicElement (k : PrivateKey) : Element :=
  Der.sequenceElement
    [k.kindBytes,
     Der.bits <|
       match k with
       | .rsa n e _ _ _ => Der.sequence [Der.integer n, Der.integer e]
       | .ecdsa _ p => pointBytes p]

theorem publicInfo_eq (k : PrivateKey) : k.publicInfo = k.publicElement.bytes := rfl

/-- The kind of a key's signatures as an element. -/
def signatureElement : PrivateKey → Element
  | .rsa .. => Der.sequenceElement [Der.identifier rsaSignatureId, Der.null]
  | .ecdsa .. => Der.sequenceElement [Der.identifier ecdsaSignatureId]

theorem signatureKind_eq (k : PrivateKey) : k.signatureKind = k.signatureElement.bytes := by
  cases k <;> rfl

theorem isLow_kindRow (k : PrivateKey) : ∀ e ∈ k.kindRow, IsLow e.tag := by
  cases k <;> simp [kindRow] <;> decide

theorem isLow_innerRow (k : PrivateKey) : ∀ e ∈ k.innerRow, IsLow e.tag := by
  cases k <;> simp [innerRow, integerElement] <;> decide

theorem isLow_outerRow (k : PrivateKey) : ∀ e ∈ k.outerRow, IsLow e.tag := by
  simp [outerRow, integerElement]
  decide

theorem kindRow_le (k : PrivateKey) : (row k.kindRow).length ≤ (row k.outerRow).length :=
  Der.content_le_row (e := ⟨0x30, row k.kindRow⟩) (by simp [outerRow])

theorem innerRow_le (k : PrivateKey) : (row k.innerRow).length ≤ (row k.outerRow).length :=
  Nat.le_trans (Der.content_le_element 0x30 _)
    (Der.content_le_row (e := ⟨0x04, Der.element 0x30 (row k.innerRow)⟩) (by simp [outerRow]))

/-! ### What is read -/

/-- The two parts of the form of PKCS #8. -/
theorem eq_of_pkcs8Parts? (hlength : (row k.outerRow).length < 2 ^ 128) {kind : List Element}
    {key : Bytes} (h : pkcs8Parts? k.bytes = some (kind, key)) :
    kind = k.kindRow ∧ key = Der.element 0x30 (row k.innerRow) := by
  rw [bytes_eq] at h
  unfold pkcs8Parts? at h
  obtain ⟨e, honly, h⟩ := Option.bind_eq_some_iff.1 h
  obtain ⟨es, hinside, h⟩ := Option.bind_eq_some_iff.1 h
  -- reading gives back the one element, and then the row inside it
  rw [Der.eq_of_only? (by decide) hlength honly] at hinside
  rw [Der.eq_of_inside? k.isLow_outerRow hlength hinside] at h
  simp only [outerRow, natural?_integerElement, Element.content?, if_true] at h
  obtain ⟨version, hversion, h⟩ := Option.bind_eq_some_iff.1 h
  cases hversion
  rw [if_neg (by decide)] at h
  obtain ⟨read, hkind, h⟩ := Option.bind_eq_some_iff.1 h
  cases h
  exact ⟨Der.eq_of_inside? k.isLow_kindRow (Nat.lt_of_le_of_lt k.kindRow_le hlength) hkind, rfl⟩

/-- Numbers that fit together make a key of themselves. -/
theorem eq_of_ofRsaNumbers? {n e d p q dp dq qi : Nat}
    (h : ofRsaNumbers? [0, n, e, d, p, q, dp, dq, qi] = some k') : k' = .rsa n e d p q := by
  unfold ofRsaNumbers? at h
  split at h
  · split at h
    · next heq _ =>
      cases heq
      cases h
      rfl
    · cases h
  · cases h

/-- The form of PKCS #1. -/
theorem eq_of_ofPkcs1? {n e d p q : Nat} (hk : k = .rsa n e d p q)
    (hlength : (row k.innerRow).length < 2 ^ 128)
    (h : ofPkcs1? (Der.element 0x30 (row k.innerRow)) = some k') : k' = k := by
  unfold ofPkcs1? at h
  obtain ⟨e', honly, h⟩ := Option.bind_eq_some_iff.1 h
  obtain ⟨es, hinside, h⟩ := Option.bind_eq_some_iff.1 h
  rw [Der.eq_of_only? (by decide) hlength honly] at hinside
  rw [Der.eq_of_inside? k.isLow_innerRow hlength hinside, hk, innerRow, mapM_natural?] at h
  rw [hk]
  exact eq_of_ofRsaNumbers? h

/-- The form of SEC 1. -/
theorem eq_of_curveParts? {secret : Nat} {point : Curve.Point} (hk : k = .ecdsa secret point)
    (hlength : (row k.innerRow).length < 2 ^ 128) {bytes : Bytes} {curve given : Option Bytes}
    (h : curveParts? (Der.element 0x30 (row k.innerRow)) = some (bytes, curve, given)) :
    bytes = Bytes.bigEndian 32 secret ∧ curve = none ∧ given = some (pointBytes point) := by
  have hpoint : (0x00 :: pointBytes point).length < 2 ^ 128 := by simp [pointBytes]
  unfold curveParts? at h
  obtain ⟨e', honly, h⟩ := Option.bind_eq_some_iff.1 h
  obtain ⟨es, hinside, h⟩ := Option.bind_eq_some_iff.1 h
  rw [Der.eq_of_only? (by decide) hlength honly] at hinside
  rw [Der.eq_of_inside? k.isLow_innerRow hlength hinside, hk] at h
  simp [innerRow, Element.content?] at h
  obtain ⟨bits, hbits, h⟩ := Option.bind_eq_some_iff.1 h
  rw [Der.eq_of_only? (by decide) hpoint hbits] at h
  -- the point is behind the byte that counts unused bits
  have hwhole : (⟨0x03, 0x00 :: pointBytes point⟩ : Element).wholeBits? =
      some (pointBytes point) := rfl
  rw [hwhole, Option.bind_some, Option.some.injEq, Prod.mk.injEq, Prod.mk.injEq] at h
  exact ⟨h.1.symm, h.2.1.symm, h.2.2.symm⟩

/-- The point that is read is the one that was written, as far as it was. -/
theorem point?_pointBytes (p : Curve.Point) :
    point? (pointBytes p) = some ⟨p.x % 256 ^ 32, p.y % 256 ^ 32⟩ := by
  simp [point?, pointBytes, List.take_left', List.drop_left', Bytes.toNat_bigEndian_mod]

/-- The secret does not matter to what is public, and of the point what was written does. -/
theorem publicInfo_of_ofSecret? {secret : Nat} {point : Curve.Point} {bytes : Bytes}
    (h : ofSecret? bytes (some (pointBytes point)) = some k') :
    k'.publicInfo = (PrivateKey.ecdsa secret point).publicInfo := by
  unfold ofSecret? at h
  simp only [point?_pointBytes] at h
  split at h
  · cases h
  · obtain ⟨read, -, h⟩ := Option.bind_eq_some_iff.1 h
    split at h
    · next heq =>
      cases h
      cases heq
      -- coordinates are written as remainders, and these are written as they are
      have hbytes : pointBytes ⟨point.x % 256 ^ 32, point.y % 256 ^ 32⟩ = pointBytes point := by
        rw [pointBytes, Bytes.bigEndian_mod, Bytes.bigEndian_mod]
        rfl
      rw [publicInfo, hbytes]
      rfl
    · cases h

/-! The form of PKCS #8, by the kind that it names. -/

theorem ofPkcs1?_of_ofPkcs8 {b key : Bytes}
    (hparts : pkcs8Parts? b = some ([⟨0x06, rsaId⟩, ⟨0x05, []⟩], key)) (h : ofPkcs8 b = .ok k') :
    ofPkcs1? key = some k' := by
  rw [ofPkcs8, hparts] at h
  simp only [if_true] at h
  rcases hread : ofPkcs1? key with _ | read
  · rw [hread] at h
    cases h
  · rw [hread] at h
    rw [Except.ok.inj h]

theorem ofCurve_of_ofPkcs8 {b key : Bytes}
    (hparts : pkcs8Parts? b = some ([⟨0x06, curveId⟩, ⟨0x06, p256Id⟩], key))
    (h : ofPkcs8 b = .ok k') :
    ∃ secret inner given, curveParts? key = some (secret, inner, given) ∧
      ofCurve p256Id secret given = .ok k' := by
  rw [ofPkcs8, hparts] at h
  simp only [ne_eq, not_true_eq_false, if_false] at h
  rcases hread : curveParts? key with _ | ⟨secret, inner, given⟩
  · rw [hread] at h
    cases h
  · rw [hread] at h
    dsimp only at h
    split at h
    · exact ⟨secret, inner, given, rfl, h⟩
    · cases h

theorem ofSecret?_of_ofCurve {secret : Bytes} {given : Option Bytes}
    (h : ofCurve p256Id secret given = .ok k') : ofSecret? secret given = some k' := by
  rw [ofCurve, if_pos rfl] at h
  rcases hsecret : ofSecret? secret given with _ | read
  · rw [hsecret] at h
    cases h
  · rw [hsecret] at h
    rw [Except.ok.inj h]

theorem publicInfo_of_ofPkcs8 (hlength : (row k.outerRow).length < 2 ^ 128)
    (h : ofPkcs8 k.bytes = .ok k') : k'.publicInfo = k.publicInfo := by
  have hinner := Nat.lt_of_le_of_lt k.innerRow_le hlength
  rcases hparts : pkcs8Parts? k.bytes with _ | ⟨kind, key⟩
  · simp [ofPkcs8, hparts] at h
  · obtain ⟨rfl, rfl⟩ := eq_of_pkcs8Parts? hlength hparts
    -- an RSA key is read as it was written, and of the other kind the point is
    cases hk : k with
    | rsa n e d p q =>
      rw [hk] at hparts h
      have hread := ofPkcs1?_of_ofPkcs8 hparts h
      rw [← hk] at hread ⊢
      rw [eq_of_ofPkcs1? hk hinner hread]
    | ecdsa secret point =>
      rw [hk] at hparts h
      obtain ⟨bytes, curve, given, hread, hcurve⟩ := ofCurve_of_ofPkcs8 hparts h
      rw [← hk] at hread
      obtain ⟨-, -, hgiven⟩ := eq_of_curveParts? hk hinner hread
      rw [hgiven] at hcurve
      exact publicInfo_of_ofSecret? (ofSecret?_of_ofCurve hcurve)

/-- **Keys.** A key that was written and is read has the public part that it had. -/
theorem publicInfo_of_ofBytes (hlength : k.bytes.length < 2 ^ 128)
    (h : ofBytes k.bytes = .ok k') : k'.publicInfo = k.publicInfo := by
  rw [bytes_eq] at hlength
  have hrow := Nat.lt_of_le_of_lt (Der.content_le_element 0x30 _) hlength
  refine publicInfo_of_ofPkcs8 hrow ?_
  -- the form is told from the first bytes of the content
  obtain ⟨n, left, hbytes, hdrop⟩ := Der.drop_element 0x30 hrow
  rw [← bytes_eq] at hbytes hdrop
  obtain ⟨more, hmore⟩ : ∃ more, row k.outerRow = 0x02 :: 0x01 :: 0x00 :: 0x30 :: more :=
    ⟨_, rfl⟩
  rw [hmore] at hdrop
  rw [← h, hbytes, ofBytes]
  rw [hbytes] at hdrop
  simp only [hdrop]

end PrivateKey

namespace Certificate

variable {c c' : Certificate} {k signer : PrivateKey}

/-! ### How a certificate is written -/

/-- The elements of what is signed of a certificate, which is about one key and signed with
another. -/
def bodyRow (c : Certificate) (signer k : PrivateKey) : List Element :=
  [⟨0xA0, Der.integer 2⟩, ⟨0x02, c.serial⟩, signer.signatureElement,
    Der.sequenceElement (c.issuer.entries.map fun as => Der.set (as.map Attribute.bytes)),
    Der.sequenceElement
      [Validity.timeBytes c.validity.notBefore, Validity.timeBytes c.validity.notAfter],
    Der.sequenceElement (c.subject.entries.map fun as => Der.set (as.map Attribute.bytes)),
    k.publicElement, ⟨0xA3, Der.sequence c.extensions⟩]

/-- The elements of a certificate with its signature. -/
def wholeRow (c : Certificate) (signer k : PrivateKey) (signature : Bytes) : List Element :=
  [⟨0x30, row (c.bodyRow signer k)⟩, signer.signatureElement, ⟨0x03, 0x00 :: signature⟩]

/-- A certificate as it is written with its signature. -/
def bytesWith (c : Certificate) (signer : PrivateKey) (signature : Bytes) : Bytes :=
  Der.sequence [c.body signer.signatureKind, signer.signatureKind, Der.bits signature]

theorem bytesWith_eq (h : c.publicInfo = k.publicInfo) (signature : Bytes) :
    c.bytesWith signer signature = Der.element 0x30 (row (c.wholeRow signer k signature)) := by
  rw [bytesWith, body, h, PrivateKey.publicInfo_eq, PrivateKey.signatureKind_eq]
  rfl

theorem isLow_bodyRow : ∀ e ∈ c.bodyRow signer k, IsLow e.tag := by
  cases signer <;>
    simp [bodyRow, Der.sequenceElement, PrivateKey.publicElement, PrivateKey.signatureElement] <;>
    decide

theorem isLow_wholeRow {signature : Bytes} : ∀ e ∈ c.wholeRow signer k signature, IsLow e.tag := by
  cases signer <;> simp [wholeRow, Der.sequenceElement, PrivateKey.signatureElement] <;> decide

/-! ### What is read -/

/-- Extensions say nothing about what is public about the key. -/
theorem publicInfo_of_withExtensions? {es : List (Bytes × Bytes)}
    (h : c.withExtensions? es = some c') : c'.publicInfo = c.publicInfo := by
  unfold withExtensions? at h
  split at h
  · cases h
  · cases h
    rfl

/-- The public part that a certificate states is its seventh element. -/
theorem publicInfo_of_ofBody? {version : Bytes}
    {serial kind issuer validity subject key : Element} {rest : List Element}
    (h : ofBody? (⟨0xA0, version⟩ :: serial :: kind :: issuer :: validity :: subject :: key ::
      rest) = some c') : c'.publicInfo = key.bytes := by
  unfold ofBody? at h
  obtain ⟨parts, hparts, h⟩ := Option.bind_eq_some_iff.1 h
  obtain ⟨v, -, hparts⟩ := Option.bind_eq_some_iff.1 hparts
  obtain ⟨_, -, rfl⟩ := Option.map_eq_some_iff.1 hparts
  obtain ⟨info, -, h⟩ := Option.bind_eq_some_iff.1 h
  dsimp only at h
  split at h
  · split at h
    · cases h
    -- every part is read for itself, and the seventh is kept as it is
    · obtain ⟨_, -, h⟩ := Option.bind_eq_some_iff.1 h
      obtain ⟨_, -, h⟩ := Option.bind_eq_some_iff.1 h
      obtain ⟨_, -, h⟩ := Option.bind_eq_some_iff.1 h
      obtain ⟨_, -, h⟩ := Option.bind_eq_some_iff.1 h
      obtain ⟨_, -, h⟩ := Option.bind_eq_some_iff.1 h
      exact publicInfo_of_withExtensions? h
  · cases h

/-- **Certificates.** A certificate that was written and is read states the public part that
it stated, whatever its signature. -/
theorem publicInfo_of_ofBytes? {signature : Bytes} (hkey : c.publicInfo = k.publicInfo)
    (hlength : (c.bytesWith signer signature).length < 2 ^ 128)
    (h : ofBytes? (c.bytesWith signer signature) = some c') : c'.publicInfo = c.publicInfo := by
  rw [bytesWith_eq hkey] at hlength h
  have hwhole := Nat.lt_of_le_of_lt (Der.content_le_element 0x30 _) hlength
  have hbody : (row (c.bodyRow signer k)).length < 2 ^ 128 :=
    Nat.lt_of_le_of_lt
      (Der.content_le_row (e := ⟨0x30, row (c.bodyRow signer k)⟩) (by simp [wholeRow])) hwhole
  -- an element is read, then its row, and then the row of the first element in it
  unfold ofBytes? at h
  obtain ⟨⟨e, rest⟩, hnext, h⟩ := Option.bind_eq_some_iff.1 h
  obtain ⟨es, hinside, h⟩ := Option.bind_eq_some_iff.1 h
  rw [← List.append_nil (Der.element ..)] at hnext
  rw [(Der.eq_of_next? (by decide) hwhole hnext).1] at hinside
  rw [Der.eq_of_inside? isLow_wholeRow hwhole hinside, wholeRow] at h
  dsimp only at h
  split at h
  · cases h
  · obtain ⟨parts, hparts, h⟩ := Option.bind_eq_some_iff.1 h
    rw [Der.eq_of_inside? isLow_bodyRow hbody hparts, bodyRow] at h
    rw [publicInfo_of_ofBody? h, hkey, PrivateKey.publicInfo_eq]

end Certificate

end ReplayProxy
