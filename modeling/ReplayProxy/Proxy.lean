import ReplayProxy.Certificate.Issuance
import ReplayProxy.Certificate.RootStore
import ReplayProxy.Engine

/-!
# The proxy

A proxy is an engine behind an address, with the root that its leaves are issued from. It
comes to be by `Proxy.create`, which reads the root, or makes one; without a root there is
no proxy.
-/

namespace ReplayProxy

/-- How a proxy is set up. -/
structure ProxySettings where
  address : SocketAddress := .v4 ⟨127, 0, 0, 1⟩ 8500
  roots : RootStore
  /-- Whether the root is made anew even if there is one. -/
  renewRoot : Bool := false
  /-- The days for which leaves are valid. -/
  leafDays : Int := 365
  deriving DecidableEq, Repr

/-- Listens at a port of the local host only. -/
def ProxySettings.withPort (s : ProxySettings) (port : UInt16) : ProxySettings :=
  { s with address := .v4 ⟨127, 0, 0, 1⟩ port }

/-- A proxy that is ready to listen. -/
structure Proxy where
  settings : ProxySettings
  root : Root
  engine : Engine

namespace Proxy

/-- Reads the root or makes it, as the settings say. -/
def create (s : ProxySettings) (engine : Engine) (now : Second) (files : FileTree) :
    StateM Entropy (Except CertificateError Proxy × FileTree) := do
  let (root, files) ← if s.renewRoot then s.roots.renew now files else s.roots.ensure now files
  return (root.map fun root => { settings := s, root, engine }, files)

/-- The path of the certificate that clients are to trust. -/
def certificatePath (p : Proxy) : String := p.settings.roots.certificatePath

/-- The leaves of a proxy, none of which has been issued yet. -/
def issuance (p : Proxy) (tls : Tls := .readingKeys) : Issuance :=
  { root := p.root, days := p.settings.leafDays, tls }

end Proxy

end ReplayProxy
