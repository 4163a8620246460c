import ReplayProxy.Regex.CharSet

/-!
# Patterns

Which hosts the proxy deals with is said by a regular expression that may match anywhere in
the name. A pattern means a relation between places of a text: `ends r text starts` are the
places that a match of `r` may end at when it may begin at any of `starts`. All operators
have their denotation: a sequence composes, an alternative unites, a repetition iterates
until no new place is found. Which of several matches a pattern prefers does not matter
here, since only the existence of one is asked for.
-/

namespace ReplayProxy

/-- A condition on a place of a text. -/
inductive Regex.Anchor where
  | textStart
  | textEnd
  | lineStart
  | lineEnd
  /-- Between a word and what is no word. -/
  | wordEdge (ascii : Bool)
  | notWordEdge (ascii : Bool)
  | wordStart (ascii : Bool)
  | wordEnd (ascii : Bool)
  | wordStartHalf (ascii : Bool)
  | wordEndHalf (ascii : Bool)
  deriving Repr

/-- A regular expression. -/
inductive Regex where
  | empty
  | set (chars : Regex.CharSet)
  | anchor (condition : Regex.Anchor)
  | sequence (a b : Regex)
  | alternative (a b : Regex)
  /-- At least `least` times and at most `most` times, if there is a bound. -/
  | repeated (a : Regex) (least : Nat) (most : Option Nat)
  deriving Repr

namespace Regex

/-- The character before a place. -/
def before? (text : Array Char) (i : Nat) : Option Char := if i = 0 then none else text[i - 1]?

/-- Whether a character is there and belongs to a word. -/
def inWord (ascii : Bool) (c : Option Char) : Bool := c.any fun c => CharSet.isWord ascii c.toNat

/-- Whether a condition holds at a place. -/
def Anchor.holds (text : Array Char) (i : Nat) : Anchor → Bool
  | .textStart => i == 0
  | .textEnd => i == text.size
  | .lineStart => i == 0 || before? text i == some '\n'
  | .lineEnd => i == text.size || text[i]? == some '\n'
  | .wordEdge ascii => inWord ascii (before? text i) != inWord ascii text[i]?
  | .notWordEdge ascii => inWord ascii (before? text i) == inWord ascii text[i]?
  | .wordStart ascii => !inWord ascii (before? text i) && inWord ascii text[i]?
  | .wordEnd ascii => inWord ascii (before? text i) && !inWord ascii text[i]?
  | .wordStartHalf ascii => !inWord ascii (before? text i)
  | .wordEndHalf ascii => !inWord ascii text[i]?

/-- Puts together two lists of places. -/
def join (a b : List Nat) : List Nat := a ++ b.filter fun i => !a.contains i

/-- Applies a step a number of times, stopping early when no place is left. -/
def iterate (step : List Nat → List Nat) : Nat → List Nat → List Nat
  | 0, places => places
  | n + 1, places => if places.isEmpty then [] else iterate step n (step places)

/-- The places reached by at most `n` steps from `fresh`; those in `all` are known. -/
def reach (step : List Nat → List Nat) : Nat → List Nat → List Nat → List Nat
  | 0, all, _ => all
  | n + 1, all, fresh =>
    let new := (step fresh).eraseDups.filter fun i => !all.contains i
    if new.isEmpty then all else reach step n (all ++ new) new

/-- The places that matches end at. -/
def ends (text : Array Char) : Regex → List Nat → List Nat
  | empty, starts => starts
  | set chars, starts =>
    starts.filterMap fun i =>
      match text[i]? with
      | some c => if chars.contains c.toNat then some (i + 1) else none
      | none => none
  | anchor condition, starts => starts.filter fun i => condition.holds text i
  | sequence a b, starts => ends text b (ends text a starts)
  | alternative a b, starts => join (ends text a starts) (ends text b starts)
  | repeated a least most, starts =>
    let first := iterate (fun places => (ends text a places).eraseDups) least starts
    match most with
    | none => reach (ends text a) (text.size + 1) first first
    | some n => reach (ends text a) (n - least) first first

/-- Whether a pattern matches somewhere in a text. -/
def isMatch (r : Regex) (s : String) : Bool :=
  let text := s.toList.toArray
  !(ends text r (List.range (text.size + 1))).isEmpty

/-- Whether a pattern matches no text but the empty one. -/
def matchesNothing : Regex → Bool
  | empty => true
  | set _ => false
  | anchor _ => true
  | sequence a b | alternative a b => a.matchesNothing && b.matchesNothing
  | repeated a _ most => most == some 0 || a.matchesNothing

/-- The room that a pattern takes with its repetitions written out, in bytes. -/
def room : Regex → Nat
  | empty => 32
  | set chars => chars.room
  | anchor _ => 32
  | sequence a b => a.room + b.room
  | alternative a b => a.room + b.room + 64
  | repeated a least none => max least 1 * a.room + 64
  | repeated a least (some most) => least * a.room + (most - least) * (a.room + 40) + 32

end Regex

end ReplayProxy
