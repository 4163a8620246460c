import ReplayProxy.Certificate.Root
import ReplayProxy.Http.Uri
import Std.Data.ExtTreeMap

/-!
# Issuance

What the proxy shows the clients that connect to a host: a leaf for that host, which is
issued at the first connection and kept until it expires. Hosts that differ only in the
case of letters share a leaf.

A leaf that was issued is handed to the library that secures connections (`Tls`), which may
refuse it: the bytes of its key are taken to be in the form of PKCS #8, and a root that was
read may have its key in another. What the library says is a parameter. A leaf that it refuses
is not kept.

`Issuance.serve` finds or issues the leaf for a host. `Issuance.serveOrRefuse` shows no
certificate where none can be shown, so that only that connection fails.
-/

namespace ReplayProxy

/-- The library that secures connections, in what it decides about leaves. -/
structure Tls where
  /-- Whether a chain can be shown with the bytes of a key, or why not. -/
  accept : List Bytes → Bytes → Except String Unit

/-- Reads the key in the form of PKCS #8, and takes whatever chain comes with it. -/
def Tls.readingKeys : Tls where
  accept _ key :=
    match PrivateKey.ofPkcs8 key with
    | .ok _ => .ok ()
    | .error _ =>
      .error "unexpected error: failed to parse private key as RSA, ECDSA, or EdDSA"

/-- How a connection with a client is secured. -/
structure Securing where
  /-- The certificate that is shown, if one is. -/
  leaf : Option Leaf
  /-- The protocols that the client may choose from. -/
  protocols : List String
  deriving DecidableEq, Repr

namespace Securing

/-- Shows a leaf. -/
def withLeaf (l : Leaf) : Securing := ⟨some l, ["http/1.1"]⟩

/-- Shows a leaf, if the library takes it. -/
def ofLeaf (tls : Tls) (l : Leaf) : Except CertificateError Securing :=
  match tls.accept l.chain l.key with
  | .ok () => .ok (withLeaf l)
  | .error reason => .error (.tls reason)

/-- Shows no certificate, which ends the connection. -/
def refusing : Securing := ⟨none, []⟩

end Securing

/-- A leaf that was issued. -/
structure IssuedLeaf where
  securing : Securing
  expires : Second
  deriving DecidableEq, Repr

/-- A root with the leaves that it has issued, by host. -/
structure Issuance where
  root : Root
  /-- The days for which leaves are valid. -/
  days : Int := 365
  leaves : Std.ExtTreeMap String IssuedLeaf := ∅
  tls : Tls := .readingKeys

namespace Issuance

/-- The number of hosts with a leaf. -/
def hosts (i : Issuance) : Nat := i.leaves.size

/-- The leaf of a host that is kept and has not expired. -/
def current? (i : Issuance) (host : String) (now : Second) : Option Securing :=
  match i.leaves[host]? with
  | some l => if l.expires > now then some l.securing else none
  | none => none

/-- The leaf for a host: the one that is kept, or one that is issued and kept from now on. -/
def serve (i : Issuance) (host : String) (now : Second) :
    StateM Entropy (Except CertificateError Securing × Issuance) := do
  let host := Ascii.lower host
  match i.current? host now with
  | some s => return (.ok s, i)
  | none =>
    match ← i.root.issue host i.days now with
    | .error e => return (.error e, i)
    | .ok leaf =>
      match Securing.ofLeaf i.tls leaf with
      | .error e => return (.error e, i)
      | .ok securing =>
        let issued : IssuedLeaf := ⟨securing, leaf.notAfter⟩
        return (.ok securing, { i with leaves := i.leaves.insert host issued })

/-- The leaf for a host, or none where none can be shown. An overflow remains one. -/
def serveOrRefuse (i : Issuance) (host : String) (now : Second) :
    StateM Entropy (Except CertificateError Securing × Issuance) := do
  match ← i.serve host now with
  | (.error .overflow, i) => return (.error .overflow, i)
  | (.error _, i) => return (.ok .refusing, i)
  | served => return served

/-- The leaf for the authority of a target: for its host alone. -/
def serveAuthority (i : Issuance) (authority : String) (now : Second) :
    StateM Entropy (Except CertificateError Securing × Issuance) :=
  i.serveOrRefuse (Http.Uri.hostOf authority) now

end Issuance

end ReplayProxy
