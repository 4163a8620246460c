import ReplayProxy.Program.Shell.State

/-!
# Fields and patterns

An expanded word is a list of parts. As an argument it is split into fields where an
unquoted value has separators; as a pattern it says which texts fit, with `*`, `?` and
brackets wild unless they are quoted.
-/

namespace ReplayProxy.Program.Shell

/-- A part of an expanded word. -/
inductive Part where
  /-- Text that stands for itself. -/
  | solid (value : Bytes)
  /-- Text as written, in which `*`, `?` and brackets are wild in patterns. -/
  | written (value : Bytes)
  /-- Text that is split at separators. -/
  | split (value : Bytes)
  /-- Several texts, each a field of its own. -/
  | several (values : List Bytes)

/-! ### Fields -/

/-- Splits a text at separators, `field` being the field under way, if there is one.
Separators that are blanks make no empty fields. -/
def splitFields (separators : Bytes) (field : Option Bytes) : Bytes → List Bytes × Option Bytes
  | [] => ([], field)
  | b :: rest =>
    if separators.contains b then
      let blank := b == 0x20 || b == 0x09 || b == 0x0A
      let (more, last) := splitFields separators none rest
      ((if blank then field.toList else [field.getD []]) ++ more, last)
    else splitFields separators (some (field.getD [] ++ [b])) rest

/-- The fields of expanded parts; `field` is the field under way, if there is one. -/
def fields (separators : Bytes) (field : Option Bytes) : List Part → List Bytes
  | [] => field.toList
  | .solid v :: rest | .written v :: rest => fields separators (some (field.getD [] ++ v)) rest
  | .split v :: rest =>
    let (done, field) := splitFields separators field v
    done ++ fields separators field rest
  | .several [] :: rest => fields separators field rest
  | .several (v :: more) :: rest =>
    let all := (field.getD [] ++ v) :: more
    all.dropLast ++ fields separators all.getLast? rest

/-- The bytes of expanded parts, unsplit. -/
def joined : List Part → Bytes
  | [] => []
  | .solid v :: rest | .written v :: rest | .split v :: rest => v ++ joined rest
  | .several vs :: rest => spaced vs ++ joined rest

/-! ### Patterns -/

/-- One element of a pattern. -/
inductive Wild where
  | any
  | many
  | set (negated : Bool) (members : Bytes)

/-- The bytes of expanded parts, each with whether it may be wild. -/
def marked : List Part → List (UInt8 × Bool)
  | [] => []
  | .solid v :: rest => v.map (·, false) ++ marked rest
  | .written v :: rest | .split v :: rest => v.map (·, true) ++ marked rest
  | .several vs :: rest => (spaced vs).map (·, false) ++ marked rest

/-- The set that brackets write, behind the opening one, and how many bytes it takes. -/
def bracketSet? (marks : List (UInt8 × Bool)) : Option (Wild × Nat) := do
  let (negated, body) := match marks with
    | (0x21, true) :: rest | (0x5E, true) :: rest => (true, rest)
    | rest => (false, rest)
  let first := if (body.head?.map (·.1)) = some 0x5D then 1 else 0
  let written := (body.drop first).takeWhile fun m => m.1 != 0x5D || !m.2
  let size := first + written.length
  if size = body.length then none
  else do
    let items := (body.take size).map fun m => (m.1, !m.2)
    let members ← setMembers (items.length + 1) items
    some (.set negated members, marks.length - body.length + size + 1)

/-- The pattern of marked bytes. -/
def wilds : Nat → List (UInt8 × Bool) → List Wild
  | 0, _ | _ + 1, [] => []
  | fuel + 1, (b, wild) :: rest =>
    let found := if wild && b == 0x5B then bracketSet? rest else none
    match found with
    | some (w, taken) => w :: wilds fuel (rest.drop taken)
    | none =>
      (if wild && b == 0x2A then .many else if wild && b == 0x3F then .any else .set false [b]) ::
        wilds fuel rest

/-- The pattern of expanded parts. -/
def patternOf (parts : List Part) : List Wild :=
  let marks := marked parts
  wilds (marks.length + 1) marks

/-- Whether a text fits a pattern from one of its tails on. -/
def fitsTail (next : Bytes → Bool) : Bytes → Bool
  | [] => next []
  | b :: rest => next (b :: rest) || fitsTail next rest

/-- Whether a text fits a pattern. -/
def fits : List Wild → Bytes → Bool
  | [], text => text.isEmpty
  | .any :: rest, text =>
    match text with
    | _ :: more => fits rest more
    | [] => false
  | .set negated members :: rest, text =>
    match text with
    | b :: more => members.contains b != negated && fits rest more
    | [] => false
  | .many :: rest, text => fitsTail (fits rest) text

/-- A text without the shortest or longest part at its front that fits a pattern. -/
def withoutFront (longest : Bool) (pattern : List Wild) (text : Bytes) : Bytes :=
  let sizes := List.range (text.length + 1)
  match (if longest then sizes.reverse else sizes).find? fun n => fits pattern (text.take n) with
  | some n => text.drop n
  | none => text

/-- A text without the shortest or longest part at its end that fits a pattern. -/
def withoutEnd (longest : Bool) (pattern : List Wild) (text : Bytes) : Bytes :=
  let sizes := List.range (text.length + 1)
  match (if longest then sizes else sizes.reverse).find? fun n => fits pattern (text.drop n) with
  | some n => text.take n
  | none => text

/-- Text without the line feeds at its end. -/
def chomp (b : Bytes) : Bytes := (b.reverse.dropWhile (· == 0x0A)).reverse

end ReplayProxy.Program.Shell
