import ReplayProxy.Certificate.DistinguishedName
import ReplayProxy.Certificate.Key
import ReplayProxy.Certificate.Validity

/-!
# Certificates

What certificates state: who is named by whom, for how long, with which key, and what the
key is for. `Certificate.signed` writes a certificate and signs it; `Certificate.ofBytes?`
reads one and leaves the signature unchecked.
-/

namespace ReplayProxy

/-- A name besides the subject's. -/
inductive AlternativeName where
  /-- A host by its name in the domain name system. -/
  | dns (name : String)
  /-- A host by the bytes of its address. -/
  | address (bytes : Bytes)
  deriving DecidableEq, Repr

/-- What a key may be used for. -/
inductive KeyUse where
  | digitalSignature
  | contentCommitment
  | keyEncipherment
  | dataEncipherment
  | keyAgreement
  | certificateSign
  | listSign
  | encipherOnly
  | decipherOnly
  deriving DecidableEq, Repr

/-- All uses of keys, in the order of their bits. -/
def KeyUse.all : List KeyUse :=
  [.digitalSignature, .contentCommitment, .keyEncipherment, .dataEncipherment, .keyAgreement,
   .certificateSign, .listSign, .encipherOnly, .decipherOnly]

/-- What a certificate states. -/
structure Certificate where
  /-- The bytes of its number. -/
  serial : Bytes
  issuer : DistinguishedName
  validity : Validity
  subject : DistinguishedName
  /-- What is public about the subject's key. -/
  publicInfo : Bytes
  /-- The identifier of the issuer's key. -/
  issuerKey : Option Bytes := none
  /-- The identifier of the subject's key. -/
  subjectKey : Option Bytes := none
  alternatives : List AlternativeName := []
  keyUses : List KeyUse := []
  /-- The identifiers of further purposes. -/
  purposes : List Bytes := []
  /-- Whether the subject may issue certificates. -/
  isAuthority : Bool := false
  deriving DecidableEq, Repr

namespace Certificate

/-- The purpose of showing who a server is. -/
def serverAuthentication : Bytes := [0x2B, 0x06, 0x01, 0x05, 0x05, 0x07, 0x03, 0x01]

/-- The purpose of showing who a client is. -/
def clientAuthentication : Bytes := [0x2B, 0x06, 0x01, 0x05, 0x05, 0x07, 0x03, 0x02]

/-! ### Identifiers of extensions -/

/-- The identifier of the subject's key. -/
def subjectKeyId : Bytes := [0x55, 0x1D, 0x0E]

/-- The uses of the key. -/
def keyUsesId : Bytes := [0x55, 0x1D, 0x0F]

/-- The alternative names. -/
def alternativesId : Bytes := [0x55, 0x1D, 0x11]

/-- The right to issue certificates. -/
def authorityId : Bytes := [0x55, 0x1D, 0x13]

/-- The identifier of the issuer's key. -/
def issuerKeyId : Bytes := [0x55, 0x1D, 0x23]

/-- The further purposes. -/
def purposesId : Bytes := [0x55, 0x1D, 0x25]

/-! ### Writing -/

/-- An extension, which is to be understood by whoever reads it if it is critical. -/
def extension (id : Bytes) (critical : Bool) (value : Bytes) : Bytes :=
  Der.sequence
    ([Der.identifier id] ++ (if critical then [Der.truth] else []) ++ [Der.octets value])

/-- An alternative name as it is written. -/
def alternativeBytes : AlternativeName → Bytes
  | .dns name => Der.element 0x82 (Bytes.ofText name)
  | .address b => Der.element 0x87 b

/-- The bits of uses, one after the other. -/
def useBits (us : List KeyUse) : List Bool :=
  ((KeyUse.all.map us.contains).reverse.dropWhile (!·)).reverse

/-- The byte with these bits, the highest first. -/
def byteOfBits (bits : List Bool) : UInt8 :=
  UInt8.ofNat ((bits ++ List.replicate (8 - bits.length) false).foldl
    (fun n b => 2 * n + b.toNat) 0)

/-- Uses as they are written. -/
def useBytes (us : List KeyUse) : Bytes :=
  let bits := useBits us
  Der.bits
    (if bits.length ≤ 8 then [byteOfBits bits]
      else [byteOfBits (bits.take 8), byteOfBits (bits.drop 8)])
    (UInt8.ofNat ((16 - bits.length) % 8))

/-- The extensions of a certificate. -/
def extensions (c : Certificate) : List Bytes :=
  (match c.issuerKey with
    | some id => [extension issuerKeyId false (Der.sequence [Der.element 0x80 id])]
    | none => []) ++
  (if c.alternatives.isEmpty then []
    else [extension alternativesId false (Der.sequence (c.alternatives.map alternativeBytes))]) ++
  (if c.keyUses.isEmpty then [] else [extension keyUsesId true (useBytes c.keyUses)]) ++
  (if c.purposes.isEmpty then []
    else [extension purposesId false (Der.sequence (c.purposes.map Der.identifier))]) ++
  (match c.subjectKey with
    | some id => [extension subjectKeyId false (Der.octets id)]
    | none => []) ++
  (if c.isAuthority then [extension authorityId true (Der.sequence [Der.truth])] else [])

/-- What is signed of a certificate. -/
def body (c : Certificate) (signatureKind : Bytes) : Bytes :=
  Der.sequence
    [Der.explicit 0 (Der.integer 2), Der.element 0x02 c.serial, signatureKind, c.issuer.bytes,
     c.validity.bytes, c.subject.bytes, c.publicInfo,
     Der.explicit 3 (Der.sequence c.extensions)]

/-- Signs a certificate with the issuer's key. Its times must be such as can be written. -/
def signed (c : Certificate) (key : PrivateKey) :
    StateM Entropy (Except CertificateError Bytes) := do
  if !Validity.isWritable c.validity.notBefore || !Validity.isWritable c.validity.notAfter then
    return .error .overflow
  let body := c.body key.signatureKind
  match ← key.sign body with
  | some signature => return .ok (Der.sequence [body, key.signatureKind, Der.bits signature])
  | none => return .error (.generation "signing failed")

/-! ### Reading -/

/-- Reads the extension with an identifier, if the identifier and the value are there. -/
def extension? (e : Der.Element) : Option (Bytes × Bytes) := do
  match ← e.inside? 0x30 with
  | [id, value] => return (← id.content? 0x06, ← value.content? 0x04)
  | [id, critical, value] =>
    if critical.tag ≠ 0x01 then none
    return (← id.content? 0x06, ← value.content? 0x04)
  | _ => none

/-- Reads an alternative name; names of other kinds are left out. -/
def alternative? (e : Der.Element) : Option AlternativeName :=
  match e.tag with
  | 0x82 => .dns <$> e.content.text?
  | 0x87 => some (.address e.content)
  | _ => none

/-- The bits of a byte, the highest first. -/
def bitsOfByte (b : UInt8) : List Bool := ((List.range 8).map b.toNat.testBit).reverse

/-- Reads uses of keys. -/
def keyUses? (b : Bytes) : Option (List KeyUse) := do
  match ← (← Der.only? b).content? 0x03 with
  | _ :: content =>
    return (KeyUse.all.zip (content.flatMap bitsOfByte)).filterMap fun (u, b) =>
      if b then some u else none
  | [] => none

/-- Whether an extension states the right to issue certificates. -/
def authority? (b : Bytes) : Option Bool := do
  match ← (← Der.only? b).inside? 0x30 with
  | ⟨0x01, [0xFF]⟩ :: _ => return true
  | _ => return false

/-- The issuer's key in an extension. -/
def issuerKey? (b : Bytes) : Option Bytes := do
  ((← (← Der.only? b).inside? 0x30).find? (·.tag = 0x80)).map (·.content)

/-- Reads extensions, which come with their identifiers. Values that are not well formed
are left out, but the uses of a key may be stated only once. -/
def withExtensions? (c : Certificate) (es : List (Bytes × Bytes)) : Option Certificate :=
  let value (id : Bytes) : Option Bytes := es.lookup id
  let row (id : Bytes) : List Der.Element :=
    ((value id).bind fun b => (Der.only? b).bind (·.inside? 0x30)).getD []
  if (es.filter fun e => e.1 = keyUsesId && (keyUses? e.2).isSome).length > 1 then none
  else
    some { c with
      issuerKey := (value issuerKeyId).bind issuerKey?
      subjectKey := (value subjectKeyId).bind fun b => (Der.only? b).bind (·.content? 0x04)
      alternatives := (row alternativesId).filterMap alternative?
      keyUses := ((value keyUsesId).bind keyUses?).getD []
      purposes := (row purposesId).filterMap (·.content? 0x06)
      isAuthority := ((value authorityId).bind authority?).getD false }

/-- The extensions among the last parts of a certificate. -/
def extensionsAmong? (parts : List Der.Element) : Option (List (Bytes × Bytes)) :=
  match parts.find? (·.tag = 0xA3) with
  | none => some []
  | some e => do (← (← Der.only? e.content).inside? 0x30).mapM extension?

/-- Whether an element states the kind of a signature or of a key. -/
def isKind (e : Der.Element) : Bool :=
  match e.inside? 0x30 with
  | some (id :: _) => id.tag = 0x06
  | _ => false

/-- Reads what is signed of a certificate. -/
def ofBody? (parts : List Der.Element) : Option Certificate := do
  -- the version may be left out
  let parts ← match parts with
    | ⟨0xA0, version⟩ :: rest => (Der.only? version).bind fun v => v.natural?.map fun _ => rest
    | _ => some parts
  match parts with
  | serial :: kind :: issuer :: validity :: subject :: key :: rest =>
    let info ← key.inside? 0x30
    match info with
    | [keyKind, bits] => if !isKind kind || !isKind keyKind || bits.tag ≠ 0x03 then none
    | _ => none
    let c : Certificate :=
      { serial := ← serial.content? 0x02
        issuer := ← DistinguishedName.ofElement? issuer
        validity := ← Validity.ofElement? validity
        subject := ← DistinguishedName.ofElement? subject
        publicInfo := key.bytes }
    c.withExtensions? (← extensionsAmong? rest)
  | _ => none

/-- Reads a certificate; what follows it does not count. -/
def ofBytes? (b : Bytes) : Option Certificate := do
  let (e, _) ← Der.next? b
  match ← e.inside? 0x30 with
  | [body, kind, signature] =>
    if !isKind kind || signature.tag ≠ 0x03 then none
    ofBody? (← body.inside? 0x30)
  | _ => none

end Certificate

end ReplayProxy
