/-!
# Letters of ASCII

Header names, hosts and mode names are compared without regard to the case of the letters
of ASCII. All other characters are left alone: `Char.toLower` and `Char.toUpper` change
the letters of ASCII only.
-/

namespace ReplayProxy.Ascii

/-- The text with the letters of ASCII in lower case. -/
def lower (s : String) : String := s.map Char.toLower

@[simp] theorem toList_lower (s : String) : (lower s).toList = s.toList.map Char.toLower := by
  simp [lower]

/-- Equality up to the case of the letters of ASCII. -/
def sameLetters (s t : String) : Bool := lower s == lower t

@[simp] theorem sameLetters_iff {s t : String} : sameLetters s t = true ↔ lower s = lower t := by
  simp [sameLetters]

/-- A decimal digit of ASCII. -/
def isDigit (c : Char) : Bool := '0' ≤ c && c ≤ '9'

/-- A letter or decimal digit of ASCII. -/
def isAlphanumeric (c : Char) : Bool := c.isAlpha || isDigit c

/-- The value of a hexadecimal digit, in either case. -/
def hexValue? (c : Char) : Option Nat :=
  if '0' ≤ c ∧ c ≤ '9' then some (c.toNat - '0'.toNat)
  else if 'a' ≤ c ∧ c ≤ 'f' then some (c.toNat - 'a'.toNat + 10)
  else if 'A' ≤ c ∧ c ≤ 'F' then some (c.toNat - 'A'.toNat + 10)
  else none

/-- The number that a list of decimal digits writes; `none` for anything else, the empty
list included. -/
def decimal? (cs : List Char) : Option Nat :=
  if cs.isEmpty || !cs.all isDigit then none
  else some (cs.foldl (fun n c => n * 10 + (c.toNat - '0'.toNat)) 0)

end ReplayProxy.Ascii
