import ReplayProxy.Regex.Basic
import ReplayProxy.Regex.Property

/-!
# The text of patterns

The usual notation of regular expressions: literals, `.`, classes in brackets with set
operations, classes such as `\d`, properties such as `\pL`, anchors, groups, alternatives,
counted and uncounted repetitions, and flags. Parentheses number nothing that matters here,
so groups leave no trace in the pattern; their names must still be distinct.

There are no back references and no conditions on what surrounds a match, and a repetition
needs something to repeat. A closing bracket or brace alone stands for itself.

Two kinds of patterns are decided otherwise than by an engine with all of Unicode. A property
outside `Regex.Property` is unknown here. And the room that a pattern takes is reckoned by its
syntax tree (`Regex.room`), not by the program that an engine compiles it to, so a pattern
whose room is near `Regex.roomLimit` may be too large for one and not for the other. What is
proved about services holds of every pattern that is read, whichever these are.
-/

namespace ReplayProxy.Regex

/-- Why a text is no pattern. -/
inductive Error where
  | unclosedGroup
  | unopenedGroup
  | unclosedClass
  | nothingToRepeat
  | badCount
  | badEscape
  | badClass
  | badRange
  | badFlags
  | badGroupName
  | lookAround
  | unknownProperty
  | tooDeep
  | tooLarge
  | notText
  deriving DecidableEq, Repr

/-- The sentence on a pattern error. -/
def Error.message : Error → String
  | .unclosedGroup => "unclosed group"
  | .unopenedGroup => "unopened group"
  | .unclosedClass => "unclosed character class"
  | .nothingToRepeat => "repetition operator missing expression"
  | .badCount => "invalid repetition count"
  | .badEscape => "unrecognized escape sequence"
  | .badClass => "invalid character class"
  | .badRange => "invalid character class range"
  | .badFlags => "invalid flags"
  | .badGroupName => "invalid capture group name"
  | .lookAround => "look-around is not supported"
  | .unknownProperty => "Unicode property not found"
  | .tooDeep => "pattern nests too deep"
  | .tooLarge => "pattern exceeds the size limit"
  | .notText => "pattern can match invalid UTF-8"

/-- What the flags in force say. -/
structure Flags where
  /-- `i`: case does not count. -/
  fold : Bool := false
  /-- `m`: anchors hold at lines. -/
  lines : Bool := false
  /-- `s`: the dot stands for line feeds too. -/
  dotAll : Bool := false
  /-- `x`: blanks and comments in the pattern are skipped. -/
  spaced : Bool := false
  /-- `R`: lines end in a carriage return and a line feed. -/
  crlf : Bool := false
  /-- not `u`: classes are those of ASCII. -/
  ascii : Bool := false

namespace Parser

/-- Skips blanks and comments where they are not significant. -/
def skip (flags : Flags) : Nat → List Char → List Char
  | 0, cs => cs
  | fuel + 1, cs =>
    if !flags.spaced then cs
    else
      match cs with
      | '#' :: rest => skip flags fuel (rest.dropWhile (· != '\n'))
      | c :: rest => if isBlank c then skip flags fuel rest else cs
      | [] => []

/-- Skips blanks and comments before a character. -/
def next (flags : Flags) (cs : List Char) : List Char := skip flags cs.length cs

/-- Whether a character that means something may be escaped to stand for itself. -/
def isEscapable (c : Char) : Bool :=
  c.toNat < 128 && !c.isAlphanum && c != '<' && c != '>'

/-- A decimal number with blanks around it. -/
def decimal? (cs : List Char) : Option (Nat × List Char) :=
  let cs := cs.dropWhile isBlank
  let digits := cs.takeWhile Char.isDigit
  if digits.isEmpty then none
  else
    let n := digits.foldl (fun n c => n * 10 + (c.toNat - 48)) 0
    if n < 4294967296 then some (n, (cs.dropWhile Char.isDigit).dropWhile isBlank) else none

/-- The value of hexadecimal digits that name a character. -/
def hexChar? (digits : List Char) : Option Nat := do
  if digits.isEmpty || digits.length > 8 then none
  let values ← digits.mapM Ascii.hexValue?
  let n := values.foldl (fun n d => n * 16 + d) 0
  if n < 0x110000 && !(0xD800 ≤ n && n ≤ 0xDFFF) then some n else none

/-- The character after `\x`, `\u` or `\U`: digits in braces, or a fixed number of them. -/
def hexEscape (width : Nat) (cs : List Char) : Except Error (Nat × List Char) :=
  let (digits, rest) := match cs with
    | '\x7b' :: more =>
      match more.dropWhile (· != '\x7d') with
      | _ :: rest => (more.takeWhile (· != '\x7d'), rest)
      | [] => ([], [])
    | cs => (cs.take width, cs.drop width)
  if cs.head? ≠ some '\x7b' ∧ digits.length < width then .error .badEscape
  else
    match hexChar? digits with
    | some n => .ok (n, rest)
    | none => .error .badEscape

/-- What an escape means. -/
inductive Escape where
  | char (value : Nat)
  | chars (set : CharSet)
  | anchor (condition : Anchor)

/-- The class of a letter, if it has one. -/
def letterClass? (ascii : Bool) : Char → Option CharSet
  | 'd' => some (.digit ascii)
  | 'D' => some (.complement (.digit ascii))
  | 's' => some (.blank ascii)
  | 'S' => some (.complement (.blank ascii))
  | 'w' => some (.word ascii)
  | 'W' => some (.complement (.word ascii))
  | _ => none

/-- The control character of a letter, if it has one. -/
def letterChar? : Char → Option Nat
  | 'a' => some 7
  | 'f' => some 12
  | 't' => some 9
  | 'n' => some 10
  | 'r' => some 13
  | 'v' => some 11
  | _ => none

/-- The condition that `\b` with a name in braces stands for. -/
def edge? (ascii : Bool) (cs : List Char) : Option (Anchor × List Char) :=
  match cs with
  | '\x7b' :: more =>
    let name := String.ofList (more.takeWhile (· != '\x7d'))
    let rest := (more.dropWhile (· != '\x7d')).drop 1
    match name with
    | "start" => some (.wordStart ascii, rest)
    | "end" => some (.wordEnd ascii, rest)
    | "start-half" => some (.wordStartHalf ascii, rest)
    | "end-half" => some (.wordEndHalf ascii, rest)
    | _ => none
  | _ => none

/-- A set with the case of its members set aside if the flags say so. -/
def withCase (flags : Flags) (s : CharSet) : CharSet := if flags.fold then .folded s else s

/-- Reads the name of a property: one letter, or more of them in braces. -/
def property (flags : Flags) (negated : Bool) (cs : List Char) :
    Except Error (CharSet × List Char) := do
  if flags.ascii then throw .badEscape
  let (name, rest) ← match cs with
    | [] => throw .badEscape
    | '\x7b' :: more =>
      match more.dropWhile (· != '\x7d') with
      | [] => throw .badEscape
      | _ :: rest => pure (more.takeWhile (· != '\x7d'), rest)
    | c :: rest => pure ([c], rest)
  match Property.named? (if flags.spaced then name.filter (!isBlank ·) else name) with
  | some s =>
    let s := withCase flags s
    return (if negated then .complement s else s, rest)
  | none => throw .unknownProperty

/-- Reads what follows a backslash. -/
def escape (flags : Flags) : List Char → Except Error (Escape × List Char)
  | [] => .error .badEscape
  | c :: rest =>
    match letterClass? flags.ascii c, letterChar? c with
    | some s, _ => .ok (.chars s, rest)
    | none, some n => .ok (.char n, rest)
    | none, none =>
      match c with
      | 'x' => do
        let (n, rest) ← hexEscape 2 rest
        return (.char n, rest)
      | 'u' => do
        let (n, rest) ← hexEscape 4 rest
        return (.char n, rest)
      | 'U' => do
        let (n, rest) ← hexEscape 8 rest
        return (.char n, rest)
      | 'p' => do
        let (s, rest) ← property flags false rest
        return (.chars s, rest)
      | 'P' => do
        let (s, rest) ← property flags true rest
        return (.chars s, rest)
      | 'A' => .ok (.anchor .textStart, rest)
      | 'z' => .ok (.anchor .textEnd, rest)
      | 'B' => .ok (.anchor (.notWordEdge flags.ascii), rest)
      | '<' => .ok (.anchor (.wordStart flags.ascii), rest)
      | '>' => .ok (.anchor (.wordEnd flags.ascii), rest)
      | 'b' =>
        match edge? flags.ascii rest with
        | some (a, rest) => .ok (.anchor a, rest)
        | none => .ok (.anchor (.wordEdge flags.ascii), rest)
      | _ => if isEscapable c then .ok (.char c.toNat, rest) else .error .badEscape

/-- A set as a pattern. Without Unicode only sets within ASCII match whole characters. -/
def ofSet (flags : Flags) (s : CharSet) : Except Error Regex :=
  if flags.ascii && (List.range 128).any fun i => s.contains (i + 128) then .error .notText
  else .ok (.set s)

/-! ### Classes in brackets -/

/-- The set of a name in `[:name:]`. -/
def namedSet? (name : String) : Option CharSet :=
  let range (a b : Char) := CharSet.range a.toNat b.toNat
  match name with
  | "alnum" => some (.unions [range '0' '9', range 'A' 'Z', range 'a' 'z'])
  | "alpha" => some (.unions [range 'A' 'Z', range 'a' 'z'])
  | "ascii" => some (.range 0 127)
  | "blank" => some (.unions [.range 9 9, .range 32 32])
  | "cntrl" => some (.unions [.range 0 31, .range 127 127])
  | "digit" => some (range '0' '9')
  | "graph" => some (range '!' '~')
  | "lower" => some (range 'a' 'z')
  | "print" => some (range ' ' '~')
  | "punct" => some (.unions [range '!' '/', range ':' '@', .range 91 96, .range 123 126])
  | "space" => some (.unions [.range 9 13, .range 32 32])
  | "upper" => some (range 'A' 'Z')
  | "word" => some (.word true)
  | "xdigit" => some (.unions [range '0' '9', range 'A' 'F', range 'a' 'f'])
  | _ => none

/-- The named set after an opening bracket, if one is written there. -/
def named? (cs : List Char) : Option (CharSet × List Char) :=
  match cs with
  | ':' :: more =>
    let (negated, more) := match more with
      | '^' :: more => (true, more)
      | more => (false, more)
    match more.dropWhile (· != ':') with
    | ':' :: ']' :: rest =>
      (namedSet? (String.ofList (more.takeWhile (· != ':')))).map fun s =>
        (if negated then .complement s else s, rest)
    | _ => none
  | _ => none

/-- An operator between two sets. -/
inductive SetOp where
  | inter
  | diff
  | either

/-- Applies an operator. -/
def SetOp.apply : SetOp → CharSet → CharSet → CharSet
  | .inter => .inter
  | .diff => .diff
  | .either => .either

/-- One end of a range in a class, or a class. -/
def classItem (flags : Flags) : List Char → Except Error (Escape × List Char)
  | [] => .error .unclosedClass
  | '\\' :: rest => do
    match ← escape flags rest with
    | (.anchor _, _) => throw .badEscape
    | e => return e
  | c :: rest => .ok (.char c.toNat, rest)

/-- Reads a range, a single character or a class. -/
def classRange (flags : Flags) (cs : List Char) : Except Error (CharSet × List Char) := do
  let (a, rest) ← classItem flags cs
  let rest := next flags rest
  match rest with
  | '-' :: more =>
    match next flags more with
    -- a hyphen in front of the end or of another hyphen makes no range
    | ']' :: _ | '-' :: _ =>
      match a with
      | .char n => return (.range n n, rest)
      | .chars s => return (s, rest)
      | .anchor _ => throw .badClass
    | [] => throw .unclosedClass
    | more => do
      let (b, rest) ← classItem flags more
      match a, b with
      | .char n, .char m => if n ≤ m then return (.range n m, rest) else throw .badRange
      | _, _ => throw .badRange
  | rest =>
    match a with
    | .char n => return (.range n n, rest)
    | .chars s => return (s, rest)
    | .anchor _ => throw .badClass

/-- Reads the literal characters that may stand at the beginning of a class: hyphens, and
a closing bracket if nothing is before it. -/
def classStart (flags : Flags) (found : CharSet) (any : Bool) :
    Nat → List Char → CharSet × List Char
  | 0, cs => (found, cs)
  | fuel + 1, cs =>
    match next flags cs with
    | '-' :: rest => classStart flags (.union found (CharSet.single '-')) true fuel rest
    | ']' :: rest => if any then (found, ']' :: rest) else (CharSet.single ']', next flags rest)
    | rest => (found, rest)

/-- Combines a left operand with the union that follows its operator. -/
def combine (flags : Flags) (pending : Option (SetOp × CharSet)) (s : CharSet) : CharSet :=
  match pending with
  | some (op, left) => op.apply (withCase flags left) (withCase flags s)
  | none => s

/-- Reads a class after its opening bracket. `pending` is an operator with its left
operand, `found` the union under way. -/
def classBody (flags : Flags) : Nat → Bool → Option (SetOp × CharSet) → CharSet → List Char →
    Except Error (CharSet × List Char)
  | 0, _, _, _, _ => .error .tooDeep
  | fuel + 1, negated, pending, found, cs =>
    match next flags cs with
    | [] => .error .unclosedClass
    | ']' :: rest =>
      let s := withCase flags (combine flags pending found)
      .ok (if negated then .complement s else s, rest)
    | '[' :: rest =>
      match named? rest with
      | some (s, rest) => classBody flags fuel negated pending (.union found s) rest
      | none => do
        -- a bracket that names no set begins a class of its own
        let (inner, more) := match next flags rest with
          | '^' :: more => (true, more)
          | more => (false, more)
        let (start, more) := classStart flags .nothing false more.length more
        let (s, rest) ← classBody flags fuel inner none start more
        classBody flags fuel negated pending (.union found s) rest
    -- an operator takes all that was found so far as its left operand
    | '&' :: '&' :: rest =>
      classBody flags fuel negated (some (.inter, combine flags pending found)) .nothing rest
    | '-' :: '-' :: rest =>
      classBody flags fuel negated (some (.diff, combine flags pending found)) .nothing rest
    | '~' :: '~' :: rest =>
      classBody flags fuel negated (some (.either, combine flags pending found)) .nothing rest
    | cs => do
      let (s, rest) ← classRange flags cs
      classBody flags fuel negated pending (.union found s) rest

/-- Reads a class after its opening bracket. -/
def bracket (flags : Flags) (cs : List Char) : Except Error (CharSet × List Char) :=
  let (negated, rest) := match next flags cs with
    | '^' :: rest => (true, rest)
    | rest => (false, rest)
  let (start, rest) := classStart flags .nothing false rest.length rest
  classBody flags (2 * rest.length + 2) negated none start rest

/-! ### Flags and groups -/

/-- Sets one flag. -/
def setFlag (flags : Flags) (on : Bool) : Char → Option Flags
  | 'i' => some { flags with fold := on }
  | 'm' => some { flags with lines := on }
  | 's' => some { flags with dotAll := on }
  | 'x' => some { flags with spaced := on }
  | 'R' => some { flags with crlf := on }
  | 'u' => some { flags with ascii := !on }
  | 'U' => some flags
  | _ => none

/-- Reads flags up to a colon or a closing parenthesis: each flag once, and a flag after
the minus sign. -/
def readFlags (flags : Flags) (seen : List Char) (on last : Bool) :
    List Char → Except Error (Flags × Char × List Char)
  | [] => .error .badFlags
  | c :: rest =>
    if c = ':' ∨ c = ')' then
      if !last then .error .badFlags
      else if c = ')' ∧ seen.isEmpty then .error .nothingToRepeat
      else .ok (flags, c, rest)
    else if c = '-' then
      if on then readFlags flags seen false false rest else .error .badFlags
    else if seen.contains c then .error .badFlags
    else
      match setFlag flags on c with
      | some flags => readFlags flags (c :: seen) on true rest
      | none => .error .badFlags

/-- The name of a group up to its closing angle. -/
def groupName (names : List String) (cs : List Char) : Except Error (String × List Char) :=
  let name := cs.takeWhile (· != '>')
  match cs.dropWhile (· != '>') with
  | [] => .error .badGroupName
  | _ :: rest =>
    let first (c : Char) : Bool :=
      c == '_' || CharSet.isWord false c.toNat && !CharSet.isDigit false c.toNat
    let later (c : Char) : Bool :=
      CharSet.isWord false c.toNat || c == '.' || c == '[' || c == ']'
    match name with
    | [] => .error .badGroupName
    | c :: more =>
      let text := String.ofList name
      if first c && more.all later && !names.contains text then .ok (text, rest)
      else .error .badGroupName

/-! ### Patterns -/

/-- The pattern of a literal character. -/
def literal (flags : Flags) (n : Nat) : Except Error Regex :=
  ofSet flags (withCase flags (.range n n))

/-- The pattern of the dot. -/
def dot (flags : Flags) : Except Error Regex :=
  let all : CharSet := .range 0 0x10FFFF
  let s := if flags.dotAll then all
    else if flags.crlf then .diff all (.union (.range 10 10) (.range 13 13))
    else .diff all (.range 10 10)
  ofSet flags s

/-- Reads the counts of a repetition after the opening brace. -/
def counts (cs : List Char) : Except Error ((Nat × Option Nat) × List Char) :=
  match decimal? cs with
  | none => .error .badCount
  | some (m, '\x7d' :: rest) => .ok ((m, some m), rest)
  | some (m, ',' :: rest) =>
    match rest.dropWhile isBlank with
    | '\x7d' :: rest => .ok ((m, none), rest)
    | rest =>
      match decimal? rest with
      | some (n, '\x7d' :: rest) => if m ≤ n then .ok ((m, some n), rest) else .error .badCount
      | _ => .error .badCount
  | some _ => .error .badCount

/-- Drops the question mark that makes a repetition lazy. -/
def lazy (flags : Flags) (cs : List Char) : List Char :=
  match next flags cs with
  | '?' :: rest => rest
  | _ => cs

/-- What is read of a group. -/
structure Group where
  pattern : Regex
  names : List String

/-- The items read so far joined in order. -/
def joined (items : List (Regex × Bool)) : Regex :=
  items.foldl (fun r item => .sequence item.1 r) .empty

/-- Repeats the last item, if it is something that can be repeated. What matches nothing
gains nothing from a second time. -/
def repeatLast (items : List (Regex × Bool)) (least : Nat) (most : Option Nat) :
    Except Error (List (Regex × Bool)) :=
  match items with
  | (r, true) :: rest =>
    if r.matchesNothing then
      .ok ((.repeated r (min least 1) (some (min (most.getD 1) 1)), true) :: rest)
    else .ok ((.repeated r least most, true) :: rest)
  | _ => .error .nothingToRepeat

/-- Reads alternatives up to the end of the pattern or of the group. `done` is the
alternative of those before, `items` (reversed) is the sequence under way, each with
whether it can be repeated. -/
def alternatives : Nat → Nat → Flags → List String → Option Regex → List (Regex × Bool) →
    List Char → Except Error (Group × List Char)
  | 0, _, _, _, _, _, _ => .error .tooDeep
  | fuel + 1, depth, flags, names, done, items, cs =>
    let finished := match done with
      | some r => Regex.alternative r (joined items)
      | none => joined items
    let push (r : Except Error Regex) (rest : List Char) : Except Error (Group × List Char) := do
      alternatives fuel depth flags names done ((← r, true) :: items) rest
    let again (least : Nat) (most : Option Nat) (rest : List Char) :
        Except Error (Group × List Char) := do
      alternatives fuel depth flags names done (← repeatLast items least most) (lazy flags rest)
    let group (flags' : Flags) (names : List String) (rest : List Char) :
        Except Error (Group × List Char) :=
      match depth with
      | 0 => .error .tooDeep
      | depth' + 1 => do
        let (g, rest) ← alternatives fuel depth' flags' names none [] rest
        match rest with
        | ')' :: rest =>
          alternatives fuel depth flags g.names done ((g.pattern, true) :: items) rest
        | _ => throw .unclosedGroup
    match next flags cs with
    | [] => .ok (⟨finished, names⟩, [])
    | ')' :: rest => .ok (⟨finished, names⟩, ')' :: rest)
    | '|' :: rest => alternatives fuel depth flags names (some finished) [] rest
    | '*' :: rest => again 0 none rest
    | '+' :: rest => again 1 none rest
    | '?' :: rest => again 0 (some 1) rest
    | '\x7b' :: rest =>
      if items.head?.any (·.2) then do
        let ((least, most), rest) ← counts rest
        again least most rest
      else .error .nothingToRepeat
    | '(' :: '?' :: '=' :: _ | '(' :: '?' :: '!' :: _ | '(' :: '?' :: '<' :: '=' :: _
    | '(' :: '?' :: '<' :: '!' :: _ => .error .lookAround
    | '(' :: '?' :: 'P' :: '<' :: rest | '(' :: '?' :: '<' :: rest => do
      let (name, rest) ← groupName names rest
      group flags (name :: names) rest
    | '(' :: '?' :: rest => do
      let (flags', stop, rest) ← readFlags flags [] true true rest
      if stop = ':' then group flags' names rest
      -- flags without a group hold for what follows
      else alternatives fuel depth flags' names done ((.empty, false) :: items) rest
    | '(' :: rest => group flags names rest
    | '[' :: rest => do
      let (s, rest) ← bracket flags rest
      push (ofSet flags s) rest
    | '.' :: rest => push (dot flags) rest
    | '^' :: rest => push (.ok (.anchor (if flags.lines then .lineStart else .textStart))) rest
    | '$' :: rest => push (.ok (.anchor (if flags.lines then .lineEnd else .textEnd))) rest
    | '\\' :: rest => do
      let (e, rest) ← escape flags rest
      match e with
      | .char n => push (literal flags n) rest
      | .chars s => push (ofSet flags s) rest
      | .anchor a => push (.ok (.anchor a)) rest
    | c :: rest => push (literal flags c.toNat) rest

end Parser

/-- The greatest number of groups around a part of a pattern. -/
def depthLimit : Nat := 250

/-- The greatest room that a pattern may take, in bytes. -/
def roomLimit : Nat := 10485760

/-- The pattern that a text writes. -/
def parse (s : String) : Except Error Regex := do
  let cs := s.toList
  let (g, rest) ← Parser.alternatives (2 * cs.length + 2) depthLimit {} [] none [] cs
  match rest with
  | [] => if g.pattern.room ≤ roomLimit then return g.pattern else throw .tooLarge
  | _ => throw .unopenedGroup

end ReplayProxy.Regex
