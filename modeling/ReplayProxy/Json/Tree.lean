import ReplayProxy.Json.Token

/-!
# Trees of JSON text

A `Tree` is JSON text as it stands, before anyone asks what it means: members in the order
written, duplicates kept, numerals unevaluated. Every byte string has a tree. Where the
text stops being JSON the tree is cut: the value under way is `cut`, and each array and
object around it is not `closed`. So a reader that walks a tree in the order of the text
meets a fault of the text exactly where the text has it, and may report an earlier fault
of its own first.

`Document.read` runs a machine over the tokens. It holds a stack of the arrays and objects
that are open and knows what may come next (`Want`).
-/

namespace ReplayProxy.Json

/-- JSON text, up to where it stops being JSON. -/
inductive Tree where
  | null
  | boolean (value : Bool)
  | number (value : Numeral)
  /-- A string, with its text unless that cannot be used. -/
  | string (text : Option String)
  /-- The elements, and whether the closing bracket was found. -/
  | array (items : List Tree) (closed : Bool)
  /-- The members (a name without text cannot be used), and whether the closing brace was
  found. -/
  | object (members : List (Option String × Tree)) (closed : Bool)
  /-- A value that was expected and is not there. -/
  | cut

namespace Tree

/-- An array or object that is open; what it holds so far is in reverse. -/
inductive Frame where
  | array (items : List Tree)
  /-- The members so far; `name` is the name read for the next member. -/
  | object (members : List (Option String × Tree)) (name : Option (Option String))

/-- Puts a finished value into a frame. -/
def Frame.add : Frame → Tree → Frame
  | .array items, v => .array (v :: items)
  | .object members (some name), v => .object ((name, v) :: members) none
  | .object members none, _ => .object members none

/-- The tree of a frame. -/
def Frame.tree (closed : Bool) : Frame → Tree
  | .array items => .array items.reverse closed
  | .object members _ => .object members.reverse closed

/-- What the text may continue with. -/
inductive Want where
  /-- A value. -/
  | value
  /-- The first element of an array, or its end. -/
  | element
  /-- The first member of an object, or its end. -/
  | member
  /-- The name of a further member. -/
  | name
  /-- The colon after a name. -/
  | colon
  /-- A comma, or the end of what is open. -/
  | separator
  deriving DecidableEq, Repr

/-- The reader between two tokens. -/
structure Reader where
  stack : List Frame
  want : Want

/-- The tree when the text breaks off inside `stack`, with `v` where a value was due. -/
def unwind : List Frame → Option Tree → Tree
  | [], v => v.getD .cut
  | f :: rest, none => unwind rest (some (f.tree false))
  | f :: rest, some v => unwind rest (some ((f.add v).tree false))

/-- The tree when the text breaks off here. -/
def Reader.breakOff (r : Reader) : Tree :=
  match r.want with
  | .value | .colon => unwind r.stack (some .cut)
  | .element | .member | .name | .separator => unwind r.stack none

/-- What one token leads to: a reader that goes on, the finished tree, or the tree of a
text that breaks off. -/
inductive Progress where
  | more (reader : Reader)
  | done (tree : Tree)
  | broken (tree : Tree)

/-- Delivers a finished value to the innermost open frame. -/
def deliver : List Frame → Tree → Progress
  | [], v => .done v
  | f :: rest, v => .more ⟨f.add v :: rest, .separator⟩

/-- Reads a token where a value is due. -/
def Reader.value (r : Reader) : Token → Progress
  | .null => deliver r.stack .null
  | .boolean b => deliver r.stack (.boolean b)
  | .number n => deliver r.stack (.number n)
  | .string s => deliver r.stack (.string s)
  | .openArray => .more ⟨.array [] :: r.stack, .element⟩
  | .openObject => .more ⟨.object [] none :: r.stack, .member⟩
  | _ => .broken r.breakOff

/-- Closes the innermost frame. -/
def Reader.close (r : Reader) : Progress :=
  match r.stack with
  | f :: rest => deliver rest (f.tree true)
  | [] => .broken r.breakOff

/-- Reads a name. -/
def Reader.readName (r : Reader) (s : Option String) : Progress :=
  match r.stack with
  | .object members _ :: rest => .more ⟨.object members (some s) :: rest, .colon⟩
  | _ => .broken r.breakOff

/-- Reads one token. -/
def Reader.feed (r : Reader) (t : Token) : Progress :=
  match r.want, t with
  | .element, .closeArray => r.close
  | .element, t => Reader.value { r with want := .value } t
  | .value, t => r.value t
  | .member, .closeObject => r.close
  | .member, .string s => r.readName s
  | .name, .string s => r.readName s
  | .colon, .colon => .more { r with want := .value }
  | .separator, .comma =>
    -- what follows a comma depends on what is open
    match r.stack with
    | .array _ :: _ => .more { r with want := .value }
    | .object _ _ :: _ => .more { r with want := .name }
    | [] => .broken r.breakOff
  | .separator, .closeArray =>
    match r.stack with
    | .array _ :: _ => r.close
    | _ => .broken r.breakOff
  | .separator, .closeObject =>
    match r.stack with
    | .object _ _ :: _ => r.close
    | _ => .broken r.breakOff
  | _, _ => .broken r.breakOff

/-- The reader before the first token. -/
def Reader.start : Reader := ⟨[], .value⟩

end Tree

/-- The tree of a byte string, and whether nothing but blanks follows its value. -/
structure Document where
  root : Tree
  ended : Bool

namespace Document

/-- Reads on from between two tokens. -/
def readFrom (r : Tree.Reader) (s : Bytes) : Document :=
  match _h : Token.next? s with
  | none => ⟨r.breakOff, false⟩
  | some (t, rest) =>
    match r.feed t with
    | .more r => readFrom r rest
    | .done v => ⟨v, (Token.next? rest).isNone⟩
    | .broken v => ⟨v, false⟩
termination_by s.length
decreasing_by exact Token.next?_shorter _h

/-- The document that a byte string writes. -/
def read (s : Bytes) : Document := readFrom .start s

end Document

end ReplayProxy.Json
