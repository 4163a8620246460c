import ReplayProxy.Json.Tree

/-!
# Typed reading of JSON

A reader of type `Tree → Except Fault α` walks a tree in the order of the text. It reports
the first of two kinds of fault: the text is not JSON there (`malformed`), or it is JSON of
another shape than asked for (`mismatch`).

A record is read from an object, whose unknown members are skipped unread and whose known
members may occur once, or from an array that lists the fields in their order. A field that
is not there keeps the value it has in the blank record, unless the field is required.
-/

namespace ReplayProxy.Json

/-- Why a text cannot be read. -/
inductive Fault where
  /-- It is not JSON, or a value in it cannot be represented. -/
  | malformed
  /-- It is JSON of another shape. -/
  | mismatch
  deriving DecidableEq, Repr

/-- A sentence on the fault. -/
def Fault.message : Fault → String
  | .malformed => "the text is not JSON"
  | .mismatch => "the JSON has another shape than expected"

namespace Tree

/-- The fault of finding this tree where something else was asked for. A string or number
that cannot be represented is malformed before its type is looked at. -/
def unexpected : Tree → Fault
  | .cut => .malformed
  | .string none => .malformed
  | .number n => if n.value?.isSome then .mismatch else .malformed
  | _ => .mismatch

/-- Reads a string. -/
def asText : Tree → Except Fault String
  | .string (some s) => .ok s
  | t => .error t.unexpected

/-- Reads a string, or `null` as nothing. -/
def asText? : Tree → Except Fault (Option String)
  | .null => .ok none
  | t => some <$> t.asText

/-- Reads a truth value. -/
def asBool : Tree → Except Fault Bool
  | .boolean b => .ok b
  | t => .error t.unexpected

/-- Reads an integer of sixteen bits without sign. -/
def asWord16 : Tree → Except Fault UInt16
  | .number n =>
    match n.value? with
    | none => .error .malformed
    | some (.int i) => if 0 ≤ i ∧ i < 65536 then .ok (UInt16.ofNat i.toNat) else .error .mismatch
    | some (.real _) => .error .mismatch
  | t => .error t.unexpected

/-- The elements one after the other, then the end of the array. -/
def eachItem (f : Tree → Except Fault α) (closed : Bool) : List Tree → Except Fault (List α)
  | [] => if closed then .ok [] else .error .malformed
  | t :: rest => do
    let a ← f t
    return a :: (← eachItem f closed rest)

/-- Reads an array of elements of one kind. -/
def asList (f : Tree → Except Fault α) : Tree → Except Fault (List α)
  | .array items closed => eachItem f closed items
  | t => .error t.unexpected

/-- The members one after the other, then the end of the object. -/
def eachMember (f : Tree → Except Fault α) (closed : Bool) :
    List (Option String × Tree) → Except Fault (List (String × α))
  | [] => if closed then .ok [] else .error .malformed
  | (none, _) :: _ => .error .malformed
  | (some name, t) :: rest => do
    let a ← f t
    return (name, a) :: (← eachMember f closed rest)

/-- Reads an object whose values are of one kind as its members in order. -/
def asMembers (f : Tree → Except Fault α) : Tree → Except Fault (List (String × α))
  | .object members closed => eachMember f closed members
  | t => .error t.unexpected

end Tree

/-- A field of a record: its name, whether it must be there, and how its value is read
into the record. -/
structure RecordField (σ : Type) where
  name : String
  required : Bool
  read : Tree → σ → Except Fault σ

namespace RecordField

/-- A field that keeps the blank record's value when it is not there. -/
def optional (name : String) (f : Tree → Except Fault α) (put : α → σ → σ) : RecordField σ :=
  ⟨name, false, fun t s => (put · s) <$> f t⟩

/-- A field that must be there. -/
def mandatory (name : String) (f : Tree → Except Fault α) (put : α → σ → σ) : RecordField σ :=
  ⟨name, true, fun t s => (put · s) <$> f t⟩

/-- Reads the members of an object, `seen` being the names of the fields read so far. A
second member for one field is a mismatch at its name. -/
def readMembers (fields : List (RecordField σ)) (closed : Bool) :
    List (Option String × Tree) → List String → σ → Except Fault σ
  | [], seen, s =>
    if !closed then .error .malformed
    else if fields.any fun f => f.required && !seen.contains f.name then .error .mismatch
    else .ok s
  | (none, _) :: _, _, _ => .error .malformed
  | (some name, t) :: rest, seen, s =>
    match fields.find? fun f => f.name == name with
    | none => readMembers fields closed rest seen s
    | some f =>
      if seen.contains name then .error .mismatch
      else do readMembers fields closed rest (name :: seen) (← f.read t s)

/-- Reads the elements of an array as the fields in order. -/
def readItems (closed : Bool) : List (RecordField σ) → List Tree → σ → Except Fault σ
  | [], [], s => if closed then .ok s else .error .malformed
  | [], _ :: _, _ => .error .malformed
  | f :: rest, [], s =>
    if !closed then .error .malformed
    else if f.required then .error .mismatch
    else readItems closed rest [] s
  | f :: rest, t :: items, s => do readItems closed rest items (← f.read t s)

/-- Reads a record. -/
def readRecord (fields : List (RecordField σ)) (blank : σ) : Tree → Except Fault σ
  | .object members closed => readMembers fields closed members [] blank
  | .array items closed => readItems closed fields items blank
  | t => .error t.unexpected

end RecordField

/-- Reads a whole text: a value and nothing after it. -/
def decode (f : Tree → Except Fault α) (s : Bytes) : Except Fault α :=
  let document := Document.read s
  match f document.root with
  | .error e => .error e
  | .ok a => if document.ended then .ok a else .error .malformed

end ReplayProxy.Json
