import ReplayProxy.Regex.Category
import ReplayProxy.Regex.CharSet
import ReplayProxy.Regex.Script
import ReplayProxy.Text.Ascii

/-!
# Character properties

The sets of characters that have a name: general categories and groups of them, scripts,
and a few properties with two values. Names are compared without regard to case, spaces,
hyphens and underscores, and an `is` in front of a name does not count. A set can be named
alone or as the value of a property, as in `Greek` and `Script=Greek`.

Of the properties with two values there are those of `Property.binary?`, and of the others the
general category and the scripts. The remaining ones of Unicode are unknown here and name no
set: among them are `Emoji` and its kind, `Math`, `Dash`, `ID_Start` and `ID_Continue`, and
the properties `Age` and those of breaks. The extensions of a script are taken to be the
script.
-/

namespace ReplayProxy.Regex.Property

/-! ### Tables as sets -/

/-- The number that hexadecimal digits write. -/
def hexadecimal (digits : List Char) : Nat :=
  digits.foldl (fun n c => n * 16 + (Ascii.hexValue? c).getD 0) 0

/-- The range of an entry: a code point, or two with a hyphen between them. -/
def range (entry : List Char) : Nat × Nat :=
  match entry.splitOn '-' with
  | [low, high] => (hexadecimal low, hexadecimal high)
  | _ => (hexadecimal entry, hexadecimal entry)

/-- The set that the lines of a table list. -/
def listed (lines : List String) : CharSet :=
  .among (lines.flatMap fun line => (line.toList.splitOn ' ').map range)

/-- The set with a name in a list of tables. -/
def find? (tables : List (List String × List String)) (name : String) : Option CharSet :=
  (tables.find? fun t => t.1.contains name).map fun t => listed t.2

/-! ### Names -/

/-- Names as they are compared. -/
def plain (name : String) : String :=
  let lower := (Ascii.lower name).toList
  let rest := match lower with
    | 'i' :: 's' :: rest => rest
    | _ => lower
  String.ofList (rest.filter fun c => c.toNat < 128 && c != ' ' && c != '_' && c != '-')

/-- The categories that begin with a letter, together. -/
def categoriesWith (initial : Char) : CharSet :=
  .unions ((Tables.categories.filter fun t => (t.1.headD "").startsWith initial).map fun t =>
    listed t.2)

/-- Letters with case. -/
def casedLetter : CharSet :=
  .unions (["lu", "ll", "lt"].filterMap (find? Tables.categories))

/-- Every character. -/
def every : CharSet := .range 0 0x10FFFF

/-- The characters that have been assigned a meaning. -/
def assigned : CharSet := .unions (Tables.categories.map fun t => listed t.2)

/-- The set of a general category or of a group of them. -/
def category? (name : String) : Option CharSet :=
  match name with
  | "any" => some every
  | "assigned" => some assigned
  | "ascii" => some (.range 0 127)
  | "l" | "letter" => some (categoriesWith 'l')
  | "lc" | "casedletter" => some casedLetter
  | "m" | "mark" | "combiningmark" => some (categoriesWith 'm')
  | "n" | "number" => some (categoriesWith 'n')
  | "p" | "punctuation" | "punct" => some (categoriesWith 'p')
  | "s" | "symbol" => some (categoriesWith 's')
  | "z" | "separator" => some (categoriesWith 'z')
  | "c" | "other" => some (.union (categoriesWith 'c') (.complement assigned))
  | "cn" | "unassigned" => some (.complement assigned)
  | name => find? Tables.categories name

/-- The set of a property that a character has or has not. -/
def binary? (name : String) : Option CharSet :=
  let withCategory (name : String) (further : List String) : CharSet :=
    .union ((find? Tables.categories name).getD .nothing) (listed further)
  let lowercase := withCategory "ll" Tables.furtherLowercase
  let uppercase := withCategory "lu" Tables.furtherUppercase
  let hexDigits : CharSet := .unions [.range 48 57, .range 65 70, .range 97 102]
  match name with
  | "alphabetic" | "alpha" =>
    some (.union (categoriesWith 'l') (withCategory "nl" Tables.furtherAlphabetic))
  | "lowercase" | "lower" => some lowercase
  | "uppercase" | "upper" => some uppercase
  | "cased" => some (.unions [casedLetter, lowercase, uppercase])
  | "whitespace" | "wspace" | "space" => some (.blank false)
  | "asciihexdigit" | "ahex" => some hexDigits
  | "hexdigit" | "hex" =>
    some (.unions [hexDigits, .range 65296 65305, .range 65313 65318, .range 65345 65350])
  | "joincontrol" | "joinc" => some (.range 0x200C 0x200D)
  | _ => none

/-- The set of a value of a property. -/
def value? (property value : String) : Option CharSet :=
  match plain property with
  | "generalcategory" | "gc" => category? (plain value)
  | "script" | "sc" | "scriptextensions" | "scx" => find? Tables.scripts (plain value)
  | _ => none

/-- The set that a text between the braces of `\p` names. -/
def named? (text : List Char) : Option CharSet :=
  let valueAfter (mark : Char) : Option CharSet :=
    value? (String.ofList (text.takeWhile (· != mark)))
      (String.ofList ((text.dropWhile (· != mark)).drop 1))
  match text.splitOn '!' with
  | [property, '=' :: value] =>
    (value? (String.ofList property) (String.ofList value)).map .complement
  | _ =>
    if text.contains ':' then valueAfter ':'
    else if text.contains '=' then valueAfter '='
    else
      let name := plain (String.ofList text)
      ((binary? name).or (category? name)).or (find? Tables.scripts name)

end ReplayProxy.Regex.Property
