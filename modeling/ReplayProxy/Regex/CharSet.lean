import ReplayProxy.Regex.Tables
import ReplayProxy.Text.Blank

/-!
# Sets of characters in patterns

A set of characters is kept as the expression that describes it, and membership is a
recursion on the expression. The classes for words, digits and blanks are those of Unicode,
or their parts in ASCII.
-/

namespace ReplayProxy.Regex

/-- A set of characters. -/
inductive CharSet where
  | nothing
  | range (low high : Nat)
  /-- What lies in one of several ranges in ascending order. -/
  | among (ranges : List (Nat × Nat))
  | word (ascii : Bool)
  | digit (ascii : Bool)
  | blank (ascii : Bool)
  | union (a b : CharSet)
  | inter (a b : CharSet)
  | diff (a b : CharSet)
  /-- What is in exactly one of two sets. -/
  | either (a b : CharSet)
  | complement (a : CharSet)
  /-- What differs at most by case from a member. -/
  | folded (a : CharSet)
  deriving Repr

namespace CharSet

/-- A character of a word. -/
def isWord (ascii : Bool) (c : Nat) : Bool :=
  if ascii then (48 ≤ c && c ≤ 57) || (65 ≤ c && c ≤ 90) || c == 95 || (97 ≤ c && c ≤ 122)
  else Tables.within c Tables.word

/-- A decimal digit. -/
def isDigit (ascii : Bool) (c : Nat) : Bool :=
  if ascii then 48 ≤ c && c ≤ 57 else Tables.within c Tables.digit

/-- A blank. -/
def isSpace (ascii : Bool) (c : Nat) : Bool :=
  if ascii then c == 32 || (9 ≤ c && c ≤ 13) else isBlank (Char.ofNat c)

/-- Membership. -/
def contains : CharSet → Nat → Bool
  | nothing, _ => false
  | range low high, c => low ≤ c && c ≤ high
  | among ranges, c => Tables.within c ranges
  | word ascii, c => isWord ascii c
  | digit ascii, c => isDigit ascii c
  | blank ascii, c => isSpace ascii c
  | union a b, c => a.contains c || b.contains c
  | inter a b, c => a.contains c && b.contains c
  | diff a b, c => a.contains c && !b.contains c
  | either a b, c => a.contains c != b.contains c
  | complement a, c => !a.contains c
  | folded a, c => (Tables.variants c).any fun d => a.contains d

/-- The set of one character. -/
def single (c : Char) : CharSet := range c.toNat c.toNat

/-- The union of several sets. -/
def unions (sets : List CharSet) : CharSet := sets.foldr union nothing

/-- The room that a set takes in a pattern, in bytes: the more ranges it has, the more. -/
def room : CharSet → Nat
  | nothing => 32
  | range low high => if 128 ≤ high then 200 else if low = high then 32 else 72
  | among ranges => 32 + 60 * ranges.length
  | word ascii => if ascii then 100 else 50000
  | digit ascii => if ascii then 72 else 3000
  | blank ascii => if ascii then 80 else 1000
  | union a b | inter a b | diff a b | either a b => a.room + b.room
  | complement a => a.room + 200
  | folded a => 2 * a.room

end CharSet

end ReplayProxy.Regex
