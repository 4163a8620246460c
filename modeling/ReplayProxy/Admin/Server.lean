import ReplayProxy.Address
import ReplayProxy.Engine

/-!
# Where the administration is served

The administration has a host and a port of its own. They are written side by side and read as
a socket address, as those of the proxy are; what is said where they make none is not what the
proxy says.
-/

namespace ReplayProxy.Admin

/-- Where the administration is to be served. -/
structure ServerSettings where
  host : String := "127.0.0.1"
  port : UInt16 := 8888
  deriving DecidableEq, Repr

/-- Why the administration cannot be served. -/
inductive ServerError where
  | runtime (reason : String)
  deriving DecidableEq, Repr

/-- The sentence on a server error. -/
def ServerError.message : ServerError → String
  | .runtime reason => "server error: " ++ reason

/-- The socket address of the settings. -/
def ServerSettings.address (s : ServerSettings) : Except ServerError SocketAddress :=
  match SocketAddress.ofHostPort? s.host s.port with
  | some a => .ok a
  | none => .error (.runtime ("invalid address: " ++ SocketAddress.syntaxFault))

/-- The administration of an engine, ready to listen. -/
structure Server where
  engine : Engine
  address : SocketAddress

/-- The administration of an engine, where the settings say. -/
def Server.create (s : ServerSettings) (engine : Engine) : Except ServerError Server :=
  s.address.map fun address => { engine, address }

end ReplayProxy.Admin
