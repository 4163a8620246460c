import ReplayProxy.Certificate.Der

/-!
# Distinguished names

The names of those whom certificates are issued to and by: rows of attributes, each with a
kind, such as the common name or the organization, and a string of one of several types.
An entry of a name may hold several attributes at once; here it seldom does.

`DistinguishedName.ofAttributes` is a name with one attribute an entry. Whoever issues
certificates goes by `issuing?`, which keeps one attribute of every kind.
-/

namespace ReplayProxy

/-- The types of strings, by their tags. -/
inductive StringType where
  | utf8
  | numeric
  | printable
  | teletex
  | ia5
  | universal
  | bmp
  deriving DecidableEq, Repr

/-- The tag of a type of strings. -/
def StringType.tag : StringType → UInt8
  | .utf8 => 0x0C
  | .numeric => 0x12
  | .printable => 0x13
  | .teletex => 0x14
  | .ia5 => 0x16
  | .universal => 0x1C
  | .bmp => 0x1E

/-- The type of strings with a tag. -/
def StringType.ofTag? (tag : UInt8) : Option StringType :=
  [.utf8, .numeric, .printable, .teletex, .ia5, .universal, .bmp].find? (·.tag = tag)

/-- One statement of a name. -/
structure Attribute where
  /-- The identifier of its kind. -/
  kind : Bytes
  /-- The tag of its value. -/
  tag : UInt8
  value : Bytes
  deriving DecidableEq, Repr

namespace Attribute

/-- The kind of common names. -/
def commonName : Bytes := [0x55, 0x04, 0x03]

/-- The kind of organizations. -/
def organization : Bytes := [0x55, 0x04, 0x0A]

/-- An attribute with a UTF-8 string. -/
def ofText (kind : Bytes) (s : String) : Attribute := ⟨kind, StringType.utf8.tag, Bytes.ofText s⟩

/-- The value as text, for one of these types of strings. -/
def textAmong? (types : List StringType) (a : Attribute) : Option String :=
  match StringType.ofTag? a.tag with
  | some t => if types.contains t then a.value.text? else none
  | none => none

/-- The value as text. -/
def text? : Attribute → Option String := textAmong? [.utf8, .printable, .ia5, .numeric]

/-- The value as people are shown it; numeric strings are not shown. -/
def shown? : Attribute → Option String := textAmong? [.utf8, .printable, .ia5]

/-- The characters of printable strings. -/
def isPrintable (b : UInt8) : Bool :=
  let c := Char.ofNat b.toNat
  c.isAlphanum || " '()+,-./:=?".toList.contains c

/-- The big-endian numbers of `width` bytes that a byte string is made of. -/
def units? (width : Nat) : Nat → Bytes → Option (List Nat)
  | _, [] => some []
  | 0, _ => none
  | most + 1, b =>
    if b.length < width then none
    else (Bytes.toNat (b.take width) :: ·) <$> units? width most (b.drop width)

/-- Whether the value is a well-formed string of its type. -/
def isWellFormed (a : Attribute) : Bool :=
  match StringType.ofTag? a.tag with
  | some .utf8 => a.value.isText
  | some .printable => a.value.all isPrintable
  | some .ia5 => a.value.all (· < 0x80)
  | some .teletex => a.value.all fun b => 0x20 ≤ b && b ≤ 0x7F
  | some .bmp =>
    match units? 2 a.value.length a.value with
    | some us => us.all fun u => u < 0xD800 || (0xE000 ≤ u && u < 0xFFFF)
    | none => false
  | some .universal =>
    match units? 4 a.value.length a.value with
    | some us => us.all Nat.isValidChar
    | none => false
  | some .numeric | none => false

/-- An attribute as it is written. -/
def bytes (a : Attribute) : Bytes := Der.sequence [Der.identifier a.kind, Der.element a.tag a.value]

/-- Reads an attribute. -/
def ofElement? (e : Der.Element) : Option Attribute := do
  match ← e.inside? 0x30 with
  | [kind, value] => return ⟨← kind.content? 0x06, value.tag, value.content⟩
  | _ => none

end Attribute

/-- A name, entry by entry. -/
structure DistinguishedName where
  entries : List (List Attribute)
  deriving DecidableEq, Repr

namespace DistinguishedName

/-- The name with one attribute an entry. -/
def ofAttributes (as : List Attribute) : DistinguishedName := ⟨as.map ([·])⟩

/-- All attributes of a name. -/
def attributes (n : DistinguishedName) : List Attribute := n.entries.flatten

/-- The attributes of one kind. -/
def ofKind (n : DistinguishedName) (kind : Bytes) : List Attribute :=
  n.attributes.filter (·.kind = kind)

/-- The text of the first organization, or nothing. -/
def organization (n : DistinguishedName) : String :=
  ((n.ofKind Attribute.organization).head?.bind Attribute.text?).getD ""

/-- Puts an attribute in place of that of the same kind, or last. -/
def place (a : Attribute) : List Attribute → List Attribute
  | [] => [a]
  | b :: rest => if b.kind = a.kind then a :: rest else b :: place a rest

/-- The only attribute of an entry. -/
def single? : List Attribute → Option Attribute
  | [a] => some a
  | _ => none

/-- The name under which the owner of a name issues certificates: of every kind the last
attribute, at the place of the first. Entries with several attributes and strings that are
not well formed are refused. -/
def issuing? (n : DistinguishedName) : Option DistinguishedName := do
  let as ← n.entries.mapM single?
  if !as.all Attribute.isWellFormed then none
  return ofAttributes (as.foldl (fun l a => place a l) [])

/-- A name as it is written. -/
def bytes (n : DistinguishedName) : Bytes :=
  Der.sequence (n.entries.map fun as => Der.set (as.map Attribute.bytes))

/-- Reads an entry. -/
def entry? (e : Der.Element) : Option (List Attribute) := do
  let es ← e.inside? 0x31
  if es.isEmpty then none
  es.mapM Attribute.ofElement?

/-- Reads a name. -/
def ofElement? (e : Der.Element) : Option DistinguishedName := do
  return ⟨← (← e.inside? 0x30).mapM entry?⟩

end DistinguishedName

end ReplayProxy
