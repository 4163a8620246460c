import ReplayProxy.Sha256

/-!
# Entropy

Keys, signatures and serial numbers need bytes that nobody can guess. They are drawn from a
seed: each draw of thirty-two bytes is the digest of the seed and the number of the draw.
-/

namespace ReplayProxy

/-- A source of bytes. -/
structure Entropy where
  seed : Bytes
  /-- The number of draws so far. -/
  drawn : Nat := 0
  deriving DecidableEq, Repr

namespace Entropy

/-- The bytes of a draw. -/
def block (e : Entropy) : Bytes := Sha256.digest (e.seed ++ Bytes.bigEndian 8 e.drawn)

/-- Draws `blocks` times. -/
def draw : Nat → StateM Entropy Bytes
  | 0 => pure []
  | blocks + 1 => fun e =>
    let (rest, e') := draw blocks { e with drawn := e.drawn + 1 }
    (e.block ++ rest, e')

/-- Draws so many bytes. -/
def take (count : Nat) : StateM Entropy Bytes := do
  return (← draw ((count + 31) / 32)).take count

end Entropy

end ReplayProxy
