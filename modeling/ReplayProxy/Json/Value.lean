import ReplayProxy.Json.Decode

/-!
# Values of JSON

A `Value` is what a JSON text means. Read from a text (`Value.parse`), objects have their
members in the order of their names and one member for each name, the last one written;
so texts that differ in blanks, in the order of members, or in the spelling of strings
have one value, and one compact text `Value.render`.

Values nest at most `depthLimit` deep.
-/

namespace ReplayProxy.Json

/-- A JSON value. -/
inductive Value where
  | null
  | boolean (value : Bool)
  | number (value : Number)
  | string (text : String)
  | array (items : List Value)
  | object (members : List (String × Value))

namespace Value

/-- The greatest number of arrays and objects around a value. -/
def depthLimit : Nat := 127

/-- Puts a member into a list that is sorted by name. A member of the same name is
replaced. -/
def insertMember (name : String) (v : α) : List (String × α) → List (String × α)
  | [] => [(name, v)]
  | (n, w) :: rest =>
    if name < n then (name, v) :: (n, w) :: rest
    else if name = n then (name, v) :: rest
    else (n, w) :: insertMember name v rest

/-- The members sorted by name, the last of each name. -/
def sortMembers (members : List (String × α)) : List (String × α) :=
  members.foldl (fun sorted m => insertMember m.1 m.2 sorted) []

mutual

/-- The value of a tree inside at most `depth` further levels. -/
def ofTree (depth : Nat) : Tree → Except Fault Value
  | .null => .ok .null
  | .boolean b => .ok (.boolean b)
  | .number n =>
    match n.value? with
    | some v => .ok (.number v)
    | none => .error .malformed
  | .string (some s) => .ok (.string s)
  | .string none => .error .malformed
  | .cut => .error .malformed
  | .array items closed =>
    match depth with
    | 0 => .error .malformed
    | d + 1 => do
      let vs ← ofItems d items
      if closed then .ok (.array vs) else .error .malformed
  | .object members closed =>
    match depth with
    | 0 => .error .malformed
    | d + 1 => do
      let ms ← ofMembers d members
      -- of members with one name the last one counts
      if closed then .ok (.object (sortMembers ms)) else .error .malformed

/-- The values of elements. -/
def ofItems (depth : Nat) : List Tree → Except Fault (List Value)
  | [] => .ok []
  | t :: rest => do
    let v ← ofTree depth t
    let vs ← ofItems depth rest
    .ok (v :: vs)

/-- The values of members. -/
def ofMembers (depth : Nat) :
    List (Option String × Tree) → Except Fault (List (String × Value))
  | [] => .ok []
  | (none, _) :: _ => .error .malformed
  | (some name, t) :: rest => do
    let v ← ofTree depth t
    let ms ← ofMembers depth rest
    .ok ((name, v) :: ms)

end

/-- The value that a text writes. -/
def parse (s : Bytes) : Except Fault Value := decode (ofTree depthLimit) s

/-- How a character stands in a string: quotes, backslashes and control characters are
escaped, the latter by one letter where there is one. -/
def escapeChar (c : Char) : List Char :=
  if c = '"' then ['\\', '"']
  else if c = '\\' then ['\\', '\\']
  else if c = '\x08' then ['\\', 'b']
  else if c = '\x0c' then ['\\', 'f']
  else if c = '\n' then ['\\', 'n']
  else if c = '\r' then ['\\', 'r']
  else if c = '\t' then ['\\', 't']
  else if c.toNat < 0x20 then
    ['\\', 'u', '0', '0', Nat.digitChar (c.toNat / 16), Nat.digitChar (c.toNat % 16)]
  else [c]

/-- A string between its quotes. -/
def quote (s : String) : List Char := '"' :: (s.toList.flatMap escapeChar ++ ['"'])

mutual

/-- The compact text of a value, its members in their order. -/
def chars : Value → List Char
  | .null => ['n', 'u', 'l', 'l']
  | .boolean true => ['t', 'r', 'u', 'e']
  | .boolean false => ['f', 'a', 'l', 's', 'e']
  | .number n => n.render
  | .string s => quote s
  | .array [] => ['[', ']']
  | .array (v :: rest) => '[' :: (chars v ++ (itemChars rest ++ [']']))
  | .object [] => ['\x7b', '\x7d']
  | .object ((name, v) :: rest) =>
    '\x7b' :: (quote name ++ ':' :: (chars v ++ (memberChars rest ++ ['\x7d'])))

/-- Further elements, each after a comma. -/
def itemChars : List Value → List Char
  | [] => []
  | v :: rest => ',' :: (chars v ++ itemChars rest)

/-- Further members, each after a comma. -/
def memberChars : List (String × Value) → List Char
  | [] => []
  | (name, v) :: rest => ',' :: (quote name ++ ':' :: (chars v ++ memberChars rest))

end

/-- The compact text of a value. -/
def render (v : Value) : String := String.ofList v.chars

/-- The bytes of the compact text. -/
def bytes (v : Value) : Bytes := Bytes.ofText v.render

/-- A natural number as a value. -/
def nat (n : Nat) : Value := .number (.int n)

/-- Looks a member up. -/
def get? (v : Value) (name : String) : Option Value :=
  match v with
  | .object members => (members.find? fun m => m.1 == name).map Prod.snd
  | _ => none

end Value

end ReplayProxy.Json
