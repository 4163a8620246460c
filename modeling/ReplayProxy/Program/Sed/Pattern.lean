import ReplayProxy.Program.Filter

/-!
# Patterns of line editors

The two notations of POSIX for regular expressions: the basic one, in which a backslash
makes parentheses, braces, bars, `+` and `?` special, and the extended one, in which it
makes them ordinary. A pattern may have groups, which remember what they matched.

A match is looked for at the leftmost place. There, the first one in order of preference is
taken (as many repetitions as possible, the left alternative first), or the longest one if
the pattern has alternatives.
-/

namespace ReplayProxy.Program.Sed

/-- A pattern. -/
inductive Pattern where
  | empty
  | set (negated : Bool) (members : Bytes)
  | lineStart
  | lineEnd
  /-- Between a word and what is no word; with `first` only where a word begins, with `last`
  only where one ends. -/
  | edge (first last : Bool)
  | notEdge
  | group (number : Nat) (inner : Pattern)
  /-- What a group has matched, again. -/
  | again (number : Nat)
  | sequence (a b : Pattern)
  | either (a b : Pattern)
  | repeated (a : Pattern) (least : Nat) (most : Option Nat)

/-! ### Reading -/

/-- A sign of a pattern. -/
inductive Sign where
  | set (negated : Bool) (members : Bytes)
  | lineStart
  | lineEnd
  | edge (first last : Bool)
  | notEdge
  | opening
  | closing
  | bar
  | repeated (least : Nat) (most : Option Nat)
  | again (number : Nat)

/-- How many bytes stand before the bracket that closes an expression, a class of
characters counting as one. -/
def bracketSize : Nat → Bytes → Option Nat
  | 0, _ | _ + 1, [] => none
  | fuel + 1, b :: rest =>
    if b = 0x5D then some 0
    else
      let size := match className? ((rest.drop 1).map fun c => (c, false)) with
        | some name => if b = 0x5B ∧ rest.head? = some 0x3A then name.length + 3 else 0
        | none => 0
      (bracketSize fuel (rest.drop size)).map (· + size + 1)

/-- The bracket expression that follows an opening bracket: whether it is negated, what is
written in it, and how many bytes it takes with its closing bracket. A closing bracket that
comes first is a member. -/
def bracketText? (text : Bytes) : Option (Bool × Bytes × Nat) := do
  let (negated, body) := match text with
    | 0x5E :: rest => (true, rest)
    | rest => (false, rest)
  let first := if body.head? = some 0x5D then 1 else 0
  let size ← bracketSize (body.length + 1) (body.drop first)
  some (negated, body.take (first + size), text.length - body.length + first + size + 1)

/-- The byte that a backslash and what follows it stand for anywhere in a script, and how
many bytes after the backslash that takes. -/
def scriptEscape? (rest : Bytes) : Option (UInt8 × Nat) :=
  let numbered (base limit : Nat) : Option (UInt8 × Nat) :=
    let (value, digits) := digitsIn base limit (rest.drop 1)
    if digits = 0 then none else some (UInt8.ofNat value, digits + 1)
  match rest.head?.map fun b => Char.ofNat b.toNat with
  | some 'a' => some (0x07, 1)
  | some 'f' => some (0x0C, 1)
  | some 'n' => some (0x0A, 1)
  | some 'r' => some (0x0D, 1)
  | some 't' => some (0x09, 1)
  | some 'v' => some (0x0B, 1)
  | some 'd' => numbered 10 3
  | some 'o' => numbered 8 3
  | some 'x' => numbered 16 2
  | _ => none

/-- What is written in a bracket expression, with escapes resolved. Any other backslash is
a member like any other byte. -/
def bracketItems : Bytes → List SetItem
  | [] => []
  | b :: rest =>
    match if b = 0x5C then scriptEscape? rest else none with
    | some (x, taken) => (x, true) :: bracketItems (rest.drop taken)
    | none => (b, false) :: bracketItems rest
termination_by text => text.length
decreasing_by
  · exact length_drop_lt b rest _
  · exact Nat.lt_succ_self _

/-- The members of a bracket expression and how many bytes it takes. -/
def bracket? (text : Bytes) : Option (Bool × Bytes × Nat) := do
  let (negated, written, taken) ← bracketText? text
  let items := bracketItems written
  some (negated, ← setMembers (items.length + 1) items, taken)

/-- The counts between braces, and how many bytes they take with what closes them. -/
def counts? (extended : Bool) (text : Bytes) : Option (Nat × Option Nat × Nat) :=
  let closing : Bytes := if extended then [0x7D] else [0x5C, 0x7D]
  let (least, n) := digitsIn 10 text.length text
  let rest := text.drop n
  if closing.isPrefixOf rest && n != 0 then some (least, some least, n + closing.length)
  else
    match rest with
    | 0x2C :: more =>
      let (most, m) := digitsIn 10 more.length more
      if closing.isPrefixOf (more.drop m) then
        some (least, if m = 0 then none else some most, n + 1 + m + closing.length)
      else none
    | _ => none

/-- The members of the classes that a letter names. -/
def wordMembers : Bytes :=
  byteRange 0x30 0x39 ++ byteRange 0x41 0x5A ++ [0x5F] ++ byteRange 0x61 0x7A

/-- What an escaped character means where it has no other meaning, and how many bytes after
the backslash that takes. -/
def escapedSign (rest : Bytes) : Sign × Nat :=
  let b := rest.headD 0
  match Char.ofNat b.toNat with
  | 'w' => (.set false wordMembers, 1)
  | 'W' => (.set true wordMembers, 1)
  | 's' => (.set false (byteRange 0x09 0x0D ++ [0x20]), 1)
  | 'S' => (.set true (byteRange 0x09 0x0D ++ [0x20]), 1)
  | 'b' => (.edge false false, 1)
  | '<' => (.edge true false, 1)
  | '>' => (.edge false true, 1)
  | 'B' => (.notEdge, 1)
  | _ =>
    match scriptEscape? rest with
    | some (x, taken) => (.set false [x], taken)
    | none => (.set false [b], 1)

/-- The sign that a special character is, given what follows it, and how many bytes of what
follows it takes. `first` tells whether nothing to repeat stands before it, in which case a
sign of repetition is ordinary in the basic notation and a mistake in the extended one. -/
def special? (extended first : Bool) (b : UInt8) (rest : Bytes) : Option (Option (Sign × Nat)) :=
  let misplaced : Option (Option (Sign × Nat)) := if extended then some none else none
  match Char.ofNat b.toNat with
  | '(' => some (some (.opening, 0))
  | ')' => some (some (.closing, 0))
  | '|' => some (some (.bar, 0))
  | '+' => if first then misplaced else some (some (.repeated 1 none, 0))
  | '?' => if first then misplaced else some (some (.repeated 0 (some 1), 0))
  | '\x7b' =>
    if first then misplaced
    else some ((counts? extended rest).map fun (least, most, n) => (.repeated least most, n))
  | _ => none

/-- Whether the rest of a basic pattern ends an alternative. -/
def endsBranch (rest : Bytes) : Bool :=
  match rest with
  | [] => true
  | 0x5C :: b :: _ => b == 0x29 || b == 0x7C
  | _ => false

/-- What stands before a place of a pattern. -/
inductive Before where
  /-- Nothing that could be repeated. -/
  | nothing
  | item
  /-- A sign of repetition. -/
  | repetition
  deriving DecidableEq

/-- The first sign of a pattern, and how many bytes of the rest it takes. -/
def sign? (extended : Bool) (before : Before) (b : UInt8) (rest : Bytes) : Option (Sign × Nat) :=
  let first : Bool := before = .nothing
  match Char.ofNat b.toNat with
  | '\\' =>
    match rest with
    | [] => none
    | c :: more =>
      if 0x31 ≤ c ∧ c ≤ 0x39 then some (.again (c.toNat - 0x30), 1)
      else if extended then some (escapedSign rest)
      else if before != .item && c = 0x7B then none
      else
        match special? extended first c more with
        | some found => found.map fun (s, n) => (s, n + 1)
        | none => some (escapedSign rest)
  | '.' => some (.set true [], 0)
  | '[' => (bracket? rest).map fun (negated, members, n) => (.set negated members, n)
  | '*' =>
    -- a star that repeats nothing stands for itself, but not in the extended syntax
    if first then if extended then none else some (.set false [b], 0)
    else if before = .repetition && !extended then none
    else some (.repeated 0 none, 0)
  | '^' => if extended || first then some (.lineStart, 0) else some (.set false [b], 0)
  | '$' => if extended || endsBranch rest then some (.lineEnd, 0) else some (.set false [b], 0)
  | _ =>
    if extended then
      match special? extended first b rest with
      | some found => found
      | none => some (.set false [b], 0)
    else some (.set false [b], 0)

/-- The signs of a pattern. -/
def signs? (extended : Bool) (before : Before) : Bytes → Option (List Sign)
  | [] => some []
  | b :: rest => do
    let (s, taken) ← sign? extended before b rest
    let next : Before := match s with
      | .opening | .bar | .lineStart => .nothing
      | .repeated _ _ => .repetition
      | _ => .item
    some (s :: (← signs? extended next (rest.drop taken)))
termination_by text => text.length
decreasing_by exact length_drop_lt b rest _

/-- Reads alternatives up to the end or a closing parenthesis. `done` are the alternatives
before, `branch` is the one under way, `last` its last item; `groups` counts the groups
opened so far. -/
def alternatives? : Nat → Nat → Option Pattern → Pattern → Option Pattern → List Sign →
    Option (Pattern × Nat × List Sign)
  | 0, _, _, _, _, _ => none
  | fuel + 1, groups, done, branch, last, signs =>
    let whole := match last with
      | some p => Pattern.sequence branch p
      | none => branch
    let finished := match done with
      | some p => Pattern.either p whole
      | none => whole
    match signs with
    | [] => some (finished, groups, [])
    | .closing :: rest => some (finished, groups, .closing :: rest)
    | .bar :: rest => alternatives? fuel groups (some finished) .empty none rest
    | .opening :: rest => do
      let (inner, groups', rest) ← alternatives? fuel (groups + 1) none .empty none rest
      let group := Pattern.group (groups + 1) inner
      match rest with
      | .closing :: rest => alternatives? fuel groups' done whole (some group) rest
      | _ => none
    | .repeated least most :: rest => do
      alternatives? fuel groups done branch (some (.repeated (← last) least most)) rest
    | .set negated members :: rest =>
      alternatives? fuel groups done whole (some (.set negated members)) rest
    | .lineStart :: rest => alternatives? fuel groups done whole (some .lineStart) rest
    | .lineEnd :: rest => alternatives? fuel groups done whole (some .lineEnd) rest
    | .edge first last :: rest =>
      alternatives? fuel groups done whole (some (.edge first last)) rest
    | .notEdge :: rest => alternatives? fuel groups done whole (some .notEdge) rest
    | .again n :: rest =>
      -- only a group that has been opened can be repeated
      if n ≤ groups then alternatives? fuel groups done whole (some (.again n)) rest else none

/-- Reads a pattern; also tells how many groups it has. -/
def Pattern.read? (extended : Bool) (text : Bytes) : Option (Pattern × Nat) := do
  let signs ← signs? extended .nothing text
  let (p, groups, rest) ← alternatives? (2 * signs.length + 2) 0 none .empty none signs
  if rest.isEmpty then some (p, groups) else none

/-! ### Matching -/

/-- A match under way: the place reached, and where the groups matched. -/
structure Spot where
  place : Nat
  groups : List (Nat × Nat × Nat) := []

/-- How matches are looked for in a line. -/
structure Search where
  line : Array UInt8
  /-- Whether case does not count. -/
  fold : Bool
  /-- Whether the longest match is wanted, and not the first one. -/
  longest : Bool

/-- A letter of ASCII in lower case. -/
def lowerByte (b : UInt8) : UInt8 := if 0x41 ≤ b ∧ b ≤ 0x5A then b + 0x20 else b

/-- The better of a match and another way to go on. -/
def Search.prefer (s : Search) (found : Option Spot) (other : Unit → Option Spot) : Option Spot :=
  match found with
  | none => other ()
  | some a =>
    if s.longest then
      match other () with
      | some b => if a.place < b.place then some b else some a
      | none => some a
    else some a

/-- Whether a byte is a member of a set. -/
def Search.fits (s : Search) (negated : Bool) (members : Bytes) (b : UInt8) : Bool :=
  let member :=
    if s.fold then (members.map lowerByte).contains (lowerByte b) else members.contains b
  member != negated

/-- Whether the byte at a place belongs to a word. -/
def Search.inWord (s : Search) (place : Nat) : Bool := s.line[place]?.any wordMembers.contains

/-- Whether words begin or end at a place. -/
def Search.isEdge (s : Search) (first last : Bool) (place : Nat) : Bool :=
  let before := place != 0 && s.inWord (place - 1)
  let after := s.inWord place
  before != after && (!first || after) && (!last || before)

/-- Matches something several times. -/
def Search.times (s : Search) (one : Spot → (Spot → Option Spot) → Option Spot) :
    Nat → Nat → Option Nat → Spot → (Spot → Option Spot) → Option Spot
  | 0, _, _, _, _ => none
  | fuel + 1, 0, most, spot, go =>
    s.prefer
      (if most = some 0 then none
       else one spot fun next =>
        if next.place = spot.place then none
        else times s one fuel 0 (most.map (· - 1)) next go)
      fun _ => go spot
  | fuel + 1, least + 1, most, spot, go =>
    one spot fun next => times s one fuel least (most.map (· - 1)) next go

/-- Matches a pattern from a place on, and then goes on. -/
def Search.run (s : Search) : Pattern → Spot → (Spot → Option Spot) → Option Spot
  | .empty, spot, go => go spot
  | .set negated members, spot, go =>
    match s.line[spot.place]? with
    | some b => if s.fits negated members b then go { spot with place := spot.place + 1 } else none
    | none => none
  | .lineStart, spot, go => if spot.place = 0 then go spot else none
  | .lineEnd, spot, go => if spot.place = s.line.size then go spot else none
  | .edge first last, spot, go => if s.isEdge first last spot.place then go spot else none
  | .notEdge, spot, go => if s.isEdge false false spot.place then none else go spot
  | .group number inner, spot, go =>
    run s inner spot fun next =>
      go { next with groups := (number, spot.place, next.place) :: next.groups }
  | .again number, spot, go =>
    match spot.groups.lookup number with
    | some (first, last) =>
      let text := s.line.extract first last
      if s.line.extract spot.place (spot.place + text.size) = text then
        go { spot with place := spot.place + text.size }
      else none
    | none => none
  | .sequence a b, spot, go => run s a spot fun next => run s b next go
  | .either a b, spot, go => s.prefer (run s a spot go) fun _ => run s b spot go
  | .repeated a least most, spot, go =>
    -- more rounds than there are bytes would pass nothing
    s.times (fun spot go => run s a spot go) (s.line.size + least + 2) least most spot go

/-- Whether a pattern has alternatives. -/
def Pattern.hasAlternatives : Pattern → Bool
  | .either _ _ => true
  | .group _ a | .repeated a _ _ => a.hasAlternatives
  | .sequence a b => a.hasAlternatives || b.hasAlternatives
  | _ => false

/-- The leftmost match of a pattern in a line from a place on, `tries` places being left to
try: where it begins, and where it and its groups end. -/
def Search.find? (s : Search) (p : Pattern) : Nat → Nat → Option (Nat × Spot)
  | 0, _ => none
  | tries + 1, first =>
    match s.run p { place := first } some with
    | some spot => some (first, spot)
    | none => find? s p tries (first + 1)

end ReplayProxy.Program.Sed
