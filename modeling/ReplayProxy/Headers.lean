import ReplayProxy.Text.Ascii
import Std.Data.ExtTreeMap

/-!
# Header multimaps

Headers map a name to its values in the order they were added. Names are compared without
regard to the case of ASCII letters: every name that is added is first put into its
*canonical* spelling, in which each part between hyphens begins with a capital letter
(`Content-Type`). Two names have one canonical spelling exactly when they agree up to the
case of their letters.

A map read from elsewhere may hold other spellings; `Headers.canonical` merges them, in the
order of the names.
-/

namespace ReplayProxy

/-- A map from header names to lists of values, in the order of the names. -/
abbrev Headers := Std.ExtTreeMap String (List String)

namespace Headers

/-- Capitalises the first letter, and the first one after each hyphen; all other letters
become small. `first` tells whether a part begins here. -/
def canonicalChars (first : Bool) : List Char → List Char
  | [] => []
  | c :: rest =>
    if c = '-' then '-' :: canonicalChars true rest
    else (if first then c.toUpper else c.toLower) :: canonicalChars false rest

/-- The canonical spelling of a header name. -/
def canonicalName (name : String) : String := String.ofList (canonicalChars true name.toList)

/-- All values of a header: those under the first name that agrees with `name`. -/
def values (headers : Headers) (name : String) : List String :=
  match headers.toList.find? fun entry => Ascii.sameLetters entry.1 name with
  | some entry => entry.2
  | none => []

/-- The first value of a header. -/
def first? (headers : Headers) (name : String) : Option String := (headers.values name).head?

/-- Adds values under the canonical spelling of a name. -/
def addAll (headers : Headers) (name : String) (vs : List String) : Headers :=
  headers.alter (canonicalName name) fun old => some (old.getD [] ++ vs)

/-- Adds one value. -/
def add (headers : Headers) (name value : String) : Headers := headers.addAll name [value]

/-- The headers with every name in its canonical spelling. Values under names that agree
are put together in the order of the names. -/
def canonical (headers : Headers) : Headers :=
  headers.toList.foldl (fun out entry => out.addAll entry.1 entry.2) ∅

/-- Adds a list of headers in order. -/
def ofPairs (entries : List (String × String)) : Headers :=
  entries.foldl (fun headers entry => headers.add entry.1 entry.2) ∅

theorem getElem?_addAll (headers : Headers) (name : String) (vs : List String) (k : String) :
    (headers.addAll name vs)[k]? =
      if canonicalName name = k then some ((headers[k]?).getD [] ++ vs) else headers[k]? := by
  unfold addAll
  rw [Std.ExtTreeMap.getElem?_alter]
  by_cases h : canonicalName name = k
  · simp [h]
  · simp [h]

end Headers

end ReplayProxy
