import ReplayProxy.Http.Message

/-!
# Media types

A media type is a type and a subtype, both tokens, and parameters after semicolons. The
part of a subtype after its last plus sign is its suffix: `application/problem+json` is
written in JSON. Only blanks after a semicolon, or after a quoted value, are allowed.
-/

namespace ReplayProxy.Http

/-- A media type without its parameters, in small letters. -/
structure MediaType where
  type : String
  subtype : String
  deriving DecidableEq, Repr

namespace MediaType

/-- A character of a quoted value: any of ASCII but the control characters. -/
def isQuotable (c : Char) : Bool := 0x20 ≤ c.toNat && c.toNat < 0x7F

/-- Where the reading of parameters stands. -/
inductive State where
  /-- Before a name, where blanks may stand. -/
  | before
  /-- Inside a name. -/
  | name
  /-- After the equals sign. -/
  | start
  /-- Inside a value. -/
  | value
  /-- Inside a quoted value of which something has been read, or nothing. -/
  | quoted (something : Bool)
  /-- After a backslash in a quoted value. -/
  | escaped
  /-- After a quoted value. -/
  | after
  deriving DecidableEq, Repr

/-- Reads a character of the parameters. -/
def State.step (s : State) (c : Char) : Option State :=
  match s with
  | .before => if c = ' ' then some .before else if isTokenChar c then some .name else none
  | .name => if c = '=' then some .start else if isTokenChar c then some .name else none
  | .start => if c = '"' then some (.quoted false) else if isTokenChar c then some .value else none
  | .value => if c = ';' then some .before else if isTokenChar c then some .value else none
  | .quoted something =>
    if c = '"' && something then some .after
    else if c = '\\' then some .escaped
    else if isQuotable c then some (.quoted true)
    else none
  | .escaped => if isQuotable c then some (.quoted true) else none
  | .after => if c = ';' then some .before else if c = ' ' then some .after else none

/-- Whether parameters may end here. -/
def State.complete : State → Bool
  | .before | .start | .value | .after => true
  | .name | .quoted _ | .escaped => false

/-- Whether characters after a semicolon are parameters. -/
def areParameters (cs : List Char) : Bool :=
  match cs.foldlM State.step State.before with
  | some s => s.complete
  | none => false

/-- The media type that a text writes. -/
def parse? (s : String) : Option MediaType :=
  let cs := s.toList
  let front := cs.takeWhile (· != '/')
  let back := cs.drop (front.length + 1)
  let subtype := back.takeWhile (· != ';')
  let well := cs.contains '/' && !front.isEmpty && front.all isTokenChar &&
    subtype.all isTokenChar &&
    match back.drop subtype.length with
    | [] => true
    | _ :: rest => !subtype.isEmpty && areParameters rest
  if well then some ⟨Ascii.lower (String.ofList front), Ascii.lower (String.ofList subtype)⟩
  else none

/-- The suffix of the subtype. -/
def suffix? (m : MediaType) : Option String :=
  let back := m.subtype.toList.reverse
  match back.dropWhile (· != '+') with
  | _ :: _ :: _ => some (String.ofList (back.takeWhile (· != '+')).reverse)
  | _ => none

/-- Whether content of this type is JSON. -/
def isJson (m : MediaType) : Bool :=
  m.type == "application" && (m.subtype == "json" || m.suffix? == some "json")

end MediaType

end ReplayProxy.Http
