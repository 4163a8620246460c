import ReplayProxy.Address
import ReplayProxy.Certificate.Basic
import ReplayProxy.Certificate.Pem
import ReplayProxy.Text.Ascii

/-!
# Root and leaf certificates

The proxy shows its clients a certificate of its own making for every host it answers for.
These *leaves* are issued by a *root*, which the clients have been told to trust: a key and
a certificate that the key itself has signed. Leaves carry the key of their root.

* `Root.new` makes a root, `Root.ofPem` reads one. The certificate that is read is not
  compared with the key, and the key stays as it was written, in whichever of its forms.
* `Root.issue` makes a leaf for a host. What it states is `Root.leafFor`; the rest is its
  signature.

A host is given by name or address, perhaps with a port, which does not count
(`hostOf`), and in brackets if it is an IPv6 address with a port.
-/

namespace ReplayProxy

/-- A certificate for a host with what is needed to show it. -/
structure Leaf where
  certificate : Certificate
  /-- The certificate as it is written, and then that of its root. -/
  chain : List Bytes
  /-- The key as it is written. Whoever gets it takes it to be in the form of PKCS #8. -/
  key : Bytes
  deriving DecidableEq, Repr

/-- The end of a leaf's validity. -/
def Leaf.notAfter (l : Leaf) : Second := l.certificate.validity.notAfter

/-- A root. -/
structure Root where
  key : PrivateKey
  certificate : Certificate
  /-- The certificate as it is written. -/
  bytes : Bytes
  /-- The certificate as text. -/
  pem : String
  /-- The organization that leaves state; nothing states none. -/
  organization : String
  /-- The name under which leaves are issued. -/
  issuer : DistinguishedName
  /-- The identifier of the key in leaves. -/
  keyId : Bytes
  /-- The key as it is written: in the form in which it was read, or in that of PKCS #8. -/
  keyBytes : Bytes := key.bytes
  deriving DecidableEq, Repr

namespace Root

/-- The algorithm of the key. -/
def algorithm (r : Root) : KeyAlgorithm := r.key.algorithm

/-- The key as text. -/
def keyPem (r : Root) : String := Pem.write Pem.keyLabel r.keyBytes

/-- The identifier of a key: the first twenty bytes of the digest of what is public. -/
def identifier (publicInfo : Bytes) : Bytes := (Sha256.digest publicInfo).take 20

/-- A positive number of sixteen bytes. -/
def serialOf : Bytes → Bytes
  | [] => [0x01]
  | b :: rest => ((b &&& 0x7F) ||| 0x01) :: rest

/-- Draws a number for a certificate. -/
def drawSerial : StateM Entropy Bytes := return serialOf (← Entropy.take 16)

/-! ### Making a root -/

/-- What a new root states about itself. -/
def statementFor (commonName organization : String) (key : PrivateKey) (validity : Validity)
    (serial : Bytes) : Certificate :=
  let name := DistinguishedName.ofAttributes
    [.ofText Attribute.commonName commonName, .ofText Attribute.organization organization]
  { serial, issuer := name, validity, subject := name, publicInfo := key.publicInfo
    subjectKey := some (identifier key.publicInfo)
    keyUses := [.digitalSignature, .keyEncipherment, .certificateSign]
    purposes := [Certificate.serverAuthentication]
    isAuthority := true }

/-- Makes a root with a new key. It is valid from so many days ago to so many days from
now. -/
def new (commonName organization : String) (days : Int) (algorithm : KeyAlgorithm) (now : Second) :
    StateM Entropy (Except CertificateError Root) := do
  match Validity.span days with
  | .error e => return .error e
  | .ok span =>
    match ← PrivateKey.new algorithm with
    | none => return .error (.generation "no key could be made")
    | some key =>
      let serial ← drawSerial
      match Validity.around now span with
      | .error e => return .error e
      | .ok validity =>
        let certificate := statementFor commonName organization key validity serial
        match ← certificate.signed key with
        | .error e => return .error e
        | .ok bytes =>
          return .ok
            { key, certificate, bytes, pem := Pem.write Pem.certificateLabel bytes, organization
              issuer := certificate.subject, keyId := identifier key.publicInfo }

/-! ### Reading a root -/

/-- The key in a text, and the bytes from which it is read. -/
def keyOfPem (s : String) : Except CertificateError (PrivateKey × Bytes) :=
  match Pem.block? s with
  | some b => (PrivateKey.ofBytes b).map fun key => (key, b)
  | none => .error PrivateKey.malformed

/-- The root of a key, as it is written, and of a certificate that was read. -/
def ofParts (key : PrivateKey) (keyBytes : Bytes) (pem : String) (bytes : Bytes) :
    Except CertificateError Root :=
  match Certificate.ofBytes? bytes with
  | none => .error (.parse "malformed certificate")
  | some certificate =>
    match certificate.subject.issuing? with
    | none => .error (.parse "malformed name")
    | some issuer =>
      .ok
        { key, keyBytes, certificate, bytes, pem
          organization := certificate.subject.organization, issuer
          keyId := certificate.subjectKey.getD (identifier key.publicInfo) }

/-- Reads a root: first its key, then its certificate. -/
def ofPem (certificate key : String) : Except CertificateError Root := do
  let (key, keyBytes) ← keyOfPem key
  ofParts key keyBytes certificate (← Pem.certificate certificate)

/-! ### Issuing leaves -/

/-- A host as it is given without its port and without brackets. -/
def hostOf (given : String) : String :=
  match given.toList with
  | '[' :: rest => String.ofList (rest.takeWhile (· != ']'))
  | cs =>
    let port := (cs.reverse.takeWhile (· != ':')).reverse
    let host := cs.take (cs.length - port.length - 1)
    if cs.contains ':' && !host.contains ':' && port.all Ascii.isDigit then String.ofList host
    else given

/-- The characters of host names in certificates. -/
def isNameChar (c : Char) : Bool :=
  Ascii.isAlphanumeric c || c == '-' || c == '.' || c == '_' || c == '*'

/-- The alternative name of a host. -/
def alternativeName (host : String) : Except CertificateError AlternativeName :=
  match IpAddress.parse? host with
  | some a => .ok (.address a.bytes)
  | none =>
    if host.toList.all isNameChar then .ok (.dns host)
    else .error (.generation ("invalid hostname: " ++ host))

/-- What the leaf for a host states. It is valid from now on for so many days. -/
def leafFor (r : Root) (given : String) (days : Int) (now : Second) (serial : Bytes) :
    Except CertificateError Certificate := do
  let span ← Validity.span days
  let host := hostOf (Blank.trim given)
  if host.isEmpty then throw (.generation "empty hostname")
  let name ← alternativeName host
  let validity ← Validity.since now span
  return {
    serial, issuer := r.issuer, validity
    subject := DistinguishedName.ofAttributes <|
      Attribute.ofText Attribute.commonName host ::
        if r.organization.isEmpty then [] else [.ofText Attribute.organization r.organization]
    publicInfo := r.key.publicInfo
    issuerKey := some r.keyId
    alternatives := [name]
    keyUses := [.digitalSignature, .keyEncipherment]
    purposes := [Certificate.serverAuthentication] }

/-- Issues a leaf for a host. -/
def issue (r : Root) (given : String) (days : Int) (now : Second) :
    StateM Entropy (Except CertificateError Leaf) := do
  match r.leafFor given days now (← drawSerial) with
  | .error e => return .error e
  | .ok certificate =>
    match ← certificate.signed r.key with
    | .error e => return .error e
    | .ok bytes => return .ok { certificate, chain := [bytes, r.bytes], key := r.keyBytes }

end Root

end ReplayProxy
