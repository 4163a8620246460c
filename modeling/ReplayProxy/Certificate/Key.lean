import ReplayProxy.Certificate.Curve
import ReplayProxy.Certificate.Der
import ReplayProxy.Certificate.KeyAlgorithm
import ReplayProxy.Entropy

/-!
# Keys

Private keys for signing certificates: RSA keys and keys over the curve P-256. A key is
written in the form of PKCS #8 and read in that form, in that of PKCS #1 (RSA) or in that
of SEC 1 (curves); the form is told from the first bytes. A key that does not fit together,
whose public part is not that of its private part, is none.
-/

namespace ReplayProxy

/-- A private key with what is public about it. -/
inductive PrivateKey where
  | rsa (modulus publicExponent privateExponent prime₁ prime₂ : Nat)
  | ecdsa (secret : Nat) (point : Curve.Point)
  deriving DecidableEq, Repr

namespace PrivateKey

/-! ### Names in certificates and keys -/

/-- RSA keys. -/
def rsaId : Bytes := [0x2A, 0x86, 0x48, 0x86, 0xF7, 0x0D, 0x01, 0x01, 0x01]

/-- Keys over curves. -/
def curveId : Bytes := [0x2A, 0x86, 0x48, 0xCE, 0x3D, 0x02, 0x01]

/-- The curve P-256. -/
def p256Id : Bytes := [0x2A, 0x86, 0x48, 0xCE, 0x3D, 0x03, 0x01, 0x07]

/-- The curve P-384. -/
def p384Id : Bytes := [0x2B, 0x81, 0x04, 0x00, 0x22]

/-- The curve P-521. -/
def p521Id : Bytes := [0x2B, 0x81, 0x04, 0x00, 0x23]

/-- Keys of Ed25519. -/
def edwardsId : Bytes := [0x2B, 0x65, 0x70]

/-- RSA signatures over SHA-256. -/
def rsaSignatureId : Bytes := [0x2A, 0x86, 0x48, 0x86, 0xF7, 0x0D, 0x01, 0x01, 0x0B]

/-- ECDSA signatures over SHA-256. -/
def ecdsaSignatureId : Bytes := [0x2A, 0x86, 0x48, 0xCE, 0x3D, 0x04, 0x03, 0x02]

/-- The digest SHA-256. -/
def digestId : Bytes := [0x60, 0x86, 0x48, 0x01, 0x65, 0x03, 0x04, 0x02, 0x01]

/-- The algorithm of a key. -/
def algorithm : PrivateKey → KeyAlgorithm
  | .rsa .. => .rsa2048
  | .ecdsa .. => .ecdsaP256

/-! ### Writing -/

/-- The kind of a key as it is written. -/
def kindBytes : PrivateKey → Bytes
  | .rsa .. => Der.sequence [Der.identifier rsaId, Der.null]
  | .ecdsa .. => Der.sequence [Der.identifier curveId, Der.identifier p256Id]

/-- A point as bytes, without compression. -/
def pointBytes (p : Curve.Point) : Bytes :=
  0x04 :: Bytes.bigEndian 32 p.x ++ Bytes.bigEndian 32 p.y

/-- What is public about a key, as certificates carry it. -/
def publicInfo (k : PrivateKey) : Bytes :=
  Der.sequence
    [k.kindBytes,
     Der.bits <|
       match k with
       | .rsa n e _ _ _ => Der.sequence [Der.integer n, Der.integer e]
       | .ecdsa _ p => pointBytes p]

/-- The kind of a key's signatures as it is written. -/
def signatureKind (k : PrivateKey) : Bytes :=
  match k with
  | .rsa .. => Der.sequence [Der.identifier rsaSignatureId, Der.null]
  | .ecdsa .. => Der.sequence [Der.identifier ecdsaSignatureId]

/-- A key in the form of PKCS #8. -/
def bytes (k : PrivateKey) : Bytes :=
  let inner :=
    match k with
    | .rsa n e d p q =>
      Der.sequence ([0, n, e, d, p, q, d % (p - 1), d % (q - 1), (Modular.inverse? q p).getD 0].map
        Der.integer)
    | .ecdsa secret point =>
      Der.sequence
        [Der.integer 1, Der.octets (Bytes.bigEndian 32 secret),
         Der.explicit 1 (Der.bits (pointBytes point))]
  Der.sequence [Der.integer 0, k.kindBytes, Der.octets inner]

/-! ### Reading -/

/-- Why bytes are no key: they are of no known form. -/
def malformed : CertificateError := .parse "Could not parse key pair"

/-- The sizes in bits that an RSA modulus may have. -/
def rsaSize (n : Nat) : Bool := 2047 ≤ n.log2 && n.log2 < 8192

/-- The RSA key of these numbers, if they fit together. -/
def ofRsaNumbers? : List Nat → Option PrivateKey
  | [0, n, e, d, p, q, dp, dq, qi] =>
    if rsaSize n && n = p * q && 2 < p && 2 < q && e % 2 = 1 && 2 < e &&
        e * d % (p - 1) = 1 && e * d % (q - 1) = 1 && dp = d % (p - 1) && dq = d % (q - 1) &&
        q * qi % p = 1 then
      some (.rsa n e d p q)
    else none
  | _ => none

/-- Reads the form of PKCS #1. -/
def ofPkcs1? (b : Bytes) : Option PrivateKey := do
  let es ← (← Der.only? b).inside? 0x30
  ofRsaNumbers? (← es.mapM Der.Element.natural?)

/-- The point that bytes stand for; only the form without compression is read. -/
def point? : Bytes → Option Curve.Point
  | 0x04 :: rest =>
    if rest.length = 64 then some ⟨Bytes.toNat (rest.take 32), Bytes.toNat (rest.drop 32)⟩ else none
  | _ => none

/-- The parts of a curve key in the form of SEC 1: the secret, and, if they are there, the
curve and the public part. -/
def curveParts? (b : Bytes) : Option (Bytes × Option Bytes × Option Bytes) := do
  let es ← (← Der.only? b).inside? 0x30
  match es with
  | version :: secret :: rest =>
    if (← version.natural?) ≠ 1 then none
    let secret ← secret.content? 0x04
    match rest with
    | [] => return (secret, none, none)
    | [e] =>
      if e.tag = 0xA0 then return (secret, some (← (← Der.only? e.content).content? 0x06), none)
      else return (secret, none, some (← (← Der.only? (← e.content? 0xA1)).wholeBits?))
    | [e, f] =>
      return (secret, some (← (← Der.only? (← e.content? 0xA0)).content? 0x06),
        some (← (← Der.only? (← f.content? 0xA1)).wholeBits?))
    | _ => none
  | _ => none

/-- The key of a secret, whose public part must be the one that is given, if one is. -/
def ofSecret? (secret : Bytes) (given : Option Bytes) : Option PrivateKey := do
  if secret.length ≠ 32 then none
  let n := Bytes.toNat secret
  let point ← Curve.pointOf? n
  match given with
  | none => some (.ecdsa n point)
  | some b => if point? b = some point then some (.ecdsa n point) else none

/-- Keys that are well formed, but of a kind that is not used. -/
def unused (name : String) : Except CertificateError PrivateKey :=
  .error (.unsupportedAlgorithm name)

/-- Reads a key over a named curve. -/
def ofCurve (curve : Bytes) (secret : Bytes) (given : Option Bytes) :
    Except CertificateError PrivateKey :=
  if curve = p256Id then
    match ofSecret? secret given with
    | some k => .ok k
    | none => .error malformed
  else if curve = p384Id && secret.length = 48 then unused "PKCS_ECDSA_P384_SHA384"
  else if curve = p521Id && secret.length = 66 then unused "PKCS_ECDSA_P521_SHA512"
  else .error malformed

/-- Reads the form of SEC 1. A curve that is not named is P-256. -/
def ofSec1 (b : Bytes) : Except CertificateError PrivateKey :=
  match curveParts? b with
  | some (secret, curve, given) => ofCurve (curve.getD p256Id) secret given
  | none => .error malformed

/-- The parts of the form of PKCS #8: the kind of the key and the key. -/
def pkcs8Parts? (b : Bytes) : Option (List Der.Element × Bytes) := do
  match ← (← Der.only? b).inside? 0x30 with
  | version :: kind :: key :: _ =>
    if (← version.natural?) > 1 then none
    return (← kind.inside? 0x30, ← key.content? 0x04)
  | _ => none

/-- Reads the form of PKCS #8. -/
def ofPkcs8 (b : Bytes) : Except CertificateError PrivateKey :=
  match pkcs8Parts? b with
  | some ([⟨0x06, id⟩], key) =>
    -- keys of Ed25519 are recognised, but not used
    match Der.only? key with
    | some ⟨0x04, seed⟩ =>
      if id = edwardsId && seed.length = 32 then unused "PKCS_ED25519" else .error malformed
    | _ => .error malformed
  | some ([⟨0x06, id⟩, ⟨0x06, curve⟩], key) =>
    if id ≠ curveId then .error malformed
    else
      match curveParts? key with
      | some (secret, inner, given) =>
        -- the curve may be named twice, and then it has to be the same
        if inner.getD curve = curve then ofCurve curve secret given else .error malformed
      | none => .error malformed
  | some ([⟨0x06, id⟩, ⟨0x05, []⟩], key) =>
    match if id = rsaId then ofPkcs1? key else none with
    | some k => .ok k
    | none => .error malformed
  | _ => .error malformed

/-- Reads a key in one of the three forms. -/
def ofBytes (b : Bytes) : Except CertificateError PrivateKey :=
  match b with
  | 0x30 :: n :: _ =>
    let skip := if n < 128 then 2 else 2 + (n.toNat - 128)
    match b.drop skip with
    | 0x02 :: 0x01 :: _ :: 0x30 :: _ => ofPkcs8 b
    | 0x02 :: 0x01 :: 0x00 :: _ =>
      match ofPkcs1? b with
      | some k => .ok k
      | none => .error malformed
    | 0x02 :: 0x01 :: 0x01 :: _ => ofSec1 b
    | _ => .error malformed
  | _ => .error malformed

/-! ### Signing -/

/-- The padded digest that an RSA key of `size` bytes signs. -/
def rsaBlock (size : Nat) (message : Bytes) : Bytes :=
  let digest := Der.sequence
    [Der.sequence [Der.identifier digestId, Der.null], Der.octets (Sha256.digest message)]
  0x00 :: 0x01 :: List.replicate (size - digest.length - 3) 0xFF ++ 0x00 :: digest

/-- The signature of ECDSA with the one-time secret `k`, if that can be used. -/
def ecdsaWith? (secret k : Nat) (message : Bytes) : Option Bytes := do
  let point ← Curve.pointOf? k
  let r := point.x % Curve.order
  let h := Bytes.toNat (Sha256.digest message)
  let s := Modular.inverse k Curve.order * (h + r * secret) % Curve.order
  if r = 0 || s = 0 then none
  else some (Der.sequence [Der.integer r, Der.integer s])

/-- Tries one-time secrets until one can be used, at most `tries` of them. -/
def ecdsaSign (secret : Nat) (message : Bytes) : Nat → StateM Entropy (Option Bytes)
  | 0 => pure none
  | tries + 1 => do
    match ecdsaWith? secret (Bytes.toNat (← Entropy.take 32)) message with
    | some signature => return some signature
    | none => ecdsaSign secret message tries

/-- The signature of a message, over its digest. -/
def sign (k : PrivateKey) (message : Bytes) : StateM Entropy (Option Bytes) :=
  match k with
  | .rsa n _ d _ _ =>
    let size := n.log2 / 8 + 1
    pure (some (Bytes.bigEndian size (Modular.power (Bytes.toNat (rsaBlock size message)) d n)))
  | .ecdsa secret _ => ecdsaSign secret message 64

/-! ### Making keys -/

/-- Draws secrets until one can be used, at most `tries` of them. -/
def newEcdsa : Nat → StateM Entropy (Option PrivateKey)
  | 0 => pure none
  | tries + 1 => do
    let secret := Bytes.toNat (← Entropy.take 32)
    match Curve.pointOf? secret with
    | some point => return some (.ecdsa secret point)
    | none => newEcdsa tries

/-- Whether `a` shows that `n`, where `n - 1 = 2 ^ s * d`, is no prime. -/
def isWitness (n d s a : Nat) : Bool :=
  let x := Modular.power a d n
  let squares := (List.range s).map fun i => Modular.power x (1 <<< i) n
  x != 1 && !squares.contains (n - 1)

/-- The number of times that two divides a number below `2 ^ fuel`. -/
def twos : Nat → Nat → Nat
  | 0, _ => 0
  | fuel + 1, n => if n % 2 = 0 then 1 + twos fuel (n / 2) else 0

/-- Whether a large odd number seems to be a prime: it has no small divisor, and no base
shows otherwise. -/
def seemsPrime (n : Nat) : Bool :=
  let s := twos (n.log2 + 1) (n - 1)
  ((List.range 500).all fun i => n % (2 * i + 3) != 0) &&
    (List.range 40).all fun i => !isWitness n ((n - 1) >>> s) s (i + 2)

/-- Draws odd numbers of 1024 bits, the two highest of them set, until one seems to be a
prime that suits the exponent, at most `tries` of them. -/
def newPrime : Nat → StateM Entropy (Option Nat)
  | 0 => pure none
  | tries + 1 => do
    let n := Bytes.toNat (← Entropy.take 128) % (1 <<< 1022) ||| (1 <<< 1023) ||| (1 <<< 1022) ||| 1
    if n % 65537 != 1 && seemsPrime n then return some n else newPrime tries

/-- An RSA key with a modulus of 2048 bits. -/
def newRsa : StateM Entropy (Option PrivateKey) := do
  let some p ← newPrime 20000 | return none
  let some q ← newPrime 20000 | return none
  match if p = q then none else Modular.inverse? 65537 ((p - 1) * (q - 1)) with
  | some d => return some (.rsa (p * q) 65537 d p q)
  | none => return none

/-- A new key. Where no RSA key can be made, a key over the curve takes its place. -/
def new (a : KeyAlgorithm) : StateM Entropy (Option PrivateKey) := do
  match a with
  | .ecdsaP256 => newEcdsa 64
  | .rsa2048 =>
    match ← newRsa with
    | some k => return some k
    | none => newEcdsa 64

end PrivateKey

end ReplayProxy
