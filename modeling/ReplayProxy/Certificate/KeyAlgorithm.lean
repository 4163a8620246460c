import ReplayProxy.Text.Ascii
import ReplayProxy.Text.Blank

/-!
# Key algorithms of certificates

The keys with which certificates are signed, and the causes for which making or loading a
certificate fails.
-/

namespace ReplayProxy

/-- Why there is no certificate. -/
inductive CertificateError where
  /-- It cannot be made. -/
  | generation (reason : String)
  /-- Its file cannot be read. -/
  | read (reason : String)
  /-- What was read is no certificate, or no key. -/
  | parse (reason : String)
  /-- Its file cannot be written. -/
  | write (reason : String)
  /-- No key of this kind is used. -/
  | unsupportedAlgorithm (name : String)
  /-- Connections cannot be secured with it. -/
  | tls (reason : String)
  /-- A date or a span of time is beyond all that can be computed with. This is no answer:
  whoever asked is stopped. -/
  | overflow
  deriving DecidableEq, Repr

/-- The sentence on a certificate error. -/
def CertificateError.message : CertificateError → String
  | .generation reason => "Failed to generate certificate: " ++ reason
  | .read reason => "Failed to read CA: " ++ reason
  | .parse reason => "Failed to parse CA: " ++ reason
  | .write reason => "Failed to write CA: " ++ reason
  | .unsupportedAlgorithm name => "Unsupported key algorithm: " ++ name
  | .tls reason => "TLS error: " ++ reason
  | .overflow => "a time is out of range"

/-- The kinds of keys. -/
inductive KeyAlgorithm where
  /-- RSA with a modulus of 2048 bits when it is made anew. -/
  | rsa2048
  /-- ECDSA over the curve P-256. -/
  | ecdsaP256
  deriving DecidableEq, Repr, Inhabited

namespace KeyAlgorithm

/-- The name of an algorithm. -/
def name : KeyAlgorithm → String
  | .rsa2048 => "rsa2048"
  | .ecdsaP256 => "ecdsa-p256"

/-- Reads a name, without regard to the blanks around it and to the case of its letters. -/
def parse (s : String) : Except CertificateError KeyAlgorithm :=
  match Ascii.lower (Blank.trim s) with
  | "rsa" | "rsa2048" => .ok .rsa2048
  | "ecdsa" | "ecdsa-p256" | "p256" => .ok .ecdsaP256
  | other => .error (.unsupportedAlgorithm other)

end KeyAlgorithm

end ReplayProxy
