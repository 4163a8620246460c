import ReplayProxy.Text.Ascii
import ReplayProxy.Text.Blank

/-!
# Modes

What the proxy does with a request is decided by the mode that is active when the request
arrives. Exactly one mode is active at a time.
-/

namespace ReplayProxy

/-- What the proxy does with the requests that name a destination of its concern. -/
inductive Mode where
  /-- Forward and return the real response. -/
  | virtualize
  /-- Forward and record the exchange. -/
  | capture
  /-- Answer from recorded exchanges alone. -/
  | simulate
  /-- Transform the request, forward it, transform the response. -/
  | modify
  /-- Let the transform make up the response. -/
  | synthesize
  deriving DecidableEq, Repr, Inhabited

namespace Mode

/-- Every mode, in the order of the counters. -/
def all : List Mode := [.virtualize, .capture, .simulate, .modify, .synthesize]

/-- The name of a mode. -/
def name : Mode → String
  | .virtualize => "virtualize"
  | .capture => "capture"
  | .simulate => "simulate"
  | .modify => "modify"
  | .synthesize => "synthesize"

/-- Whether the mode cannot work without a transform. -/
def requiresTransform : Mode → Bool
  | .modify | .synthesize => true
  | _ => false

/-- A name that belongs to no mode. -/
structure Unknown where
  name : String
  deriving DecidableEq, Repr

/-- The sentence on an unknown name. -/
def Unknown.message (e : Unknown) : String :=
  "unknown mode '" ++ e.name ++
    "', available modes: virtualize, capture, simulate, modify, synthesize"

/-- The mode with exactly this name. -/
def ofName? (s : String) : Option Mode := all.find? fun m => m.name == s

/-- Reads a mode name, without regard to the blanks around it and to the case of its
letters. -/
def parse (s : String) : Except Unknown Mode :=
  match ofName? (Ascii.lower (Blank.trim s)) with
  | some m => .ok m
  | none => .error ⟨s⟩

end Mode

/-- How many requests each mode has handled. A count starts again after `2 ^ 64 - 1`. -/
structure Counters where
  count : Mode → UInt64

namespace Counters

/-- Nothing handled yet. -/
def empty : Counters := ⟨fun _ => 0⟩

/-- One more request handled in a mode. -/
def increment (c : Counters) (m : Mode) : Counters :=
  ⟨fun n => if n = m then c.count n + 1 else c.count n⟩

@[simp] theorem count_increment (c : Counters) (m n : Mode) :
    (c.increment m).count n = if n = m then c.count n + 1 else c.count n := rfl

/-- The number of requests handled in all modes. -/
def total (c : Counters) : UInt64 := (Mode.all.map c.count).foldl (· + ·) 0

/-- The count of each mode, in the order of the modes' names. -/
def snapshot (c : Counters) : List (String × UInt64) :=
  [Mode.capture, .modify, .simulate, .synthesize, .virtualize].map fun m => (m.name, c.count m)

end Counters

end ReplayProxy
