import ReplayProxy.Program.Sed.Pattern

/-!
# Scripts of the line editor

A script of `sed` is a list of commands, each with the lines that it is for. Braces are
commands too: the opening one goes to the closing one where it is not for a line. The
readers return what they read and how much of the text that takes, or nothing if the text
is no script.
-/

namespace ReplayProxy.Program.Sed

/-- A piece of a replacement. -/
inductive Replacement where
  | text (value : Bytes)
  /-- What a group has matched; group zero is the whole match. -/
  | group (number : Nat)
  /-- Letters are written in upper or lower case from here on, or as they are. -/
  | letters (upper : Option Bool)
  /-- The next letter is written in upper or lower case. -/
  | nextLetter (upper : Bool)

/-- What selects a line. -/
inductive Address where
  | line (number : Nat)
  /-- Every so many lines from one on. -/
  | every (first step : Nat)
  | last
  | matching (pattern : Pattern) (fold : Bool)

/-- A substitution. -/
structure Substitution where
  pattern : Pattern
  replacement : List Replacement
  fold : Bool := false
  /-- Whether all matches are replaced, from the `nth` on. -/
  all : Bool := false
  nth : Option Nat := none
  print : Bool := false

/-- What is done with a line. -/
inductive Action where
  | substitute (value : Substitution)
  | exchange (pairs : List (UInt8 × UInt8))
  | delete
  | deleteFirst
  | print
  | printFirst
  | quit (status : Nat) (silent : Bool)
  | number
  | next
  | join
  | append (text : Bytes)
  | insert (text : Bytes)
  | change (text : Bytes)
  | hold
  | holdAppend
  | get
  | getAppend
  | swap
  | opening
  | closing
  | label (name : Bytes)
  | goto (name : Bytes)
  /-- Goes to a label if something has, or with `negated` has not, been replaced. -/
  | gotoIf (negated : Bool) (name : Bytes)

/-- A command: an action and the lines that it is for. -/
structure Command where
  start : Option Address := none
  stop : Option Address := none
  negated : Bool := false
  action : Action

/-! ### Substitutions -/

/-- Reads on to the next delimiter that no backslash stands before: what is before it,
without the backslashes of delimiters, and how many bytes that and the delimiter take. In a
pattern, a delimiter within a bracket expression does not count. -/
def delimited? (delimiter : UInt8) (inPattern : Bool) : Nat → Bytes → Option (Bytes × Nat)
  | 0, _ | _ + 1, [] => none
  | fuel + 1, 0x5C :: b :: rest => do
    let (more, taken) ← delimited? delimiter inPattern fuel rest
    some (if b = delimiter then b :: more else 0x5C :: b :: more, taken + 2)
  | fuel + 1, b :: rest =>
    if b = delimiter then some ([], 1)
    else if b = 0x0A then none
    else do
      let size := match if inPattern && b == 0x5B then bracketText? rest else none with
        | some (_, _, taken) => taken
        | none => 0
      let (more, taken) ← delimited? delimiter inPattern fuel (rest.drop size)
      some (b :: (rest.take size ++ more), taken + size + 1)

/-- Reads a pattern up to its delimiter. -/
def patternText? (delimiter : UInt8) (text : Bytes) : Option (Bytes × Nat) :=
  delimited? delimiter true (text.length + 1) text

/-- Reads what is no pattern up to its delimiter. -/
def plainText? (delimiter : UInt8) (text : Bytes) : Option (Bytes × Nat) :=
  delimited? delimiter false (text.length + 1) text

/-- The piece that a backslash and what follows it stand for, and how many bytes after the
backslash that takes. -/
def replacementEscape (rest : Bytes) : Replacement × Nat :=
  let b := rest.headD 0x5C
  if 0x30 ≤ b ∧ b ≤ 0x39 then (.group (b.toNat - 0x30), 1)
  else
    match Char.ofNat b.toNat with
    | 'U' => (.letters (some true), 1)
    | 'L' => (.letters (some false), 1)
    | 'E' => (.letters none, 1)
    | 'u' => (.nextLetter true, 1)
    | 'l' => (.nextLetter false, 1)
    | _ =>
      match scriptEscape? rest with
      | some (x, taken) => (.text [x], taken)
      | none => (.text [b], 1)

/-- The pieces of a replacement. -/
def replacementOf : Bytes → List Replacement
  | [] => []
  | b :: rest =>
    if b = 0x5C then
      let piece := replacementEscape rest
      piece.1 :: replacementOf (rest.drop piece.2)
    else (if b = 0x26 then .group 0 else .text [b]) :: replacementOf rest
termination_by text => text.length
decreasing_by
  · exact length_drop_lt b rest _
  · exact Nat.lt_succ_self _

/-- Reads the flags of a substitution, each at most once, and how many bytes they take. -/
def flags? (s : Substitution) : Nat → Bytes → Option (Substitution × Nat)
  | 0, _ => none
  | _ + 1, [] => some (s, 0)
  | fuel + 1, b :: rest =>
    let more (s : Substitution) (taken : Nat) : Option (Substitution × Nat) :=
      (flags? s fuel (rest.drop (taken - 1))).map fun (s, n) => (s, n + taken)
    match Char.ofNat b.toNat with
    | 'g' => if s.all then none else more { s with all := true } 1
    | 'p' => if s.print then none else more { s with print := true } 1
    | 'i' | 'I' => more { s with fold := true } 1
    | 'm' | 'M' => more s 1
    | c =>
      if Ascii.isDigit c then
        let (n, digits) := digitsIn 10 (rest.length + 1) (b :: rest)
        if n = 0 ∨ s.nth.isSome then none else more { s with nth := some n } digits
      else some (s, 0)

/-- Reads a substitution behind its letter. -/
def substitution? (extended : Bool) (text : Bytes) : Option (Action × Nat) :=
  match text with
  | [] => none
  | delimiter :: rest => do
    let (pattern, n) ← patternText? delimiter rest
    let (target, m) ← plainText? delimiter (rest.drop n)
    let (p, groups) ← Pattern.read? extended pattern
    let pieces := replacementOf target
    let known := pieces.all fun
      | .group k => k ≤ groups
      | _ => true
    if !known then none
    else do
      let flagText := rest.drop (n + m)
      let (s, k) ← flags? { pattern := p, replacement := pieces } (flagText.length + 1) flagText
      some (.substitute s, 1 + n + m + k)

/-- The bytes of a side of `y`. -/
def exchangeSide (text : Bytes) : Bytes := (bracketItems text).map (·.1)

/-- Reads an exchange of bytes behind its letter. -/
def exchange? (text : Bytes) : Option (Action × Nat) :=
  match text with
  | [] => none
  | delimiter :: rest => do
    let (source, n) ← plainText? delimiter rest
    let (target, m) ← plainText? delimiter (rest.drop n)
    let (source, target) := (exchangeSide source, exchangeSide target)
    if source.length = target.length then some (.exchange (source.zip target), 1 + n + m) else none

/-! ### Other commands -/

/-- How many bytes of blanks, and of separators if wanted, a text begins with. -/
def skipped (separators : Bool) (text : Bytes) : Nat :=
  (text.takeWhile fun b => b == 0x20 || b == 0x09 || separators && (b == 0x0A || b == 0x3B)).length

/-- Text up to the end of its line, a backslash making what follows it part of the text; and
how many bytes it takes. -/
def untilLineEnd : Bytes → Bytes × Nat
  | [] => ([], 0)
  | 0x5C :: b :: rest =>
    let (more, taken) := untilLineEnd rest
    (b :: more, taken + 2)
  | b :: rest =>
    if b = 0x0A then ([], 0)
    else
      let (more, taken) := untilLineEnd rest
      (b :: more, taken + 1)

/-- The text that an `a`, `i` or `c` command adds, and how many bytes it takes. -/
def addedText? (text : Bytes) : Option (Bytes × Nat) :=
  let lead := skipped false text
  let body := text.drop lead
  let more := match body with
    | 0x5C :: rest =>
      let blanks := skipped false rest
      if (rest.drop blanks).head? = some 0x0A then blanks + 2 else 1
    | _ => 0
  let (line, taken) := untilLineEnd (body.drop more)
  if body.isEmpty then none else some (line ++ [0x0A], lead + more + taken)

/-- The name of a label, and how many bytes it takes. -/
def labelName (text : Bytes) : Bytes × Nat :=
  let lead := skipped false text
  let name := (text.drop lead).takeWhile fun b => b != 0x0A && b != 0x3B
  let name := (name.reverse.dropWhile fun b => b == 0x20 || b == 0x09).reverse
  (name, lead + name.length)

/-- Reads an action that begins with a letter, and how many bytes of the rest it takes. -/
def action? (extended : Bool) (letter : UInt8) (rest : Bytes) : Option (Action × Nat) :=
  let quit (silent : Bool) : Option (Action × Nat) :=
    let lead := skipped false rest
    let (status, digits) := digitsIn 10 rest.length (rest.drop lead)
    some (.quit status silent, if digits = 0 then 0 else lead + digits)
  let named (action : Bytes → Action) : Option (Action × Nat) :=
    some (action (labelName rest).1, (labelName rest).2)
  match Char.ofNat letter.toNat with
  | 's' => substitution? extended rest
  | 'y' => exchange? rest
  | 'd' => some (.delete, 0)
  | 'D' => some (.deleteFirst, 0)
  | 'p' => some (.print, 0)
  | 'P' => some (.printFirst, 0)
  | 'q' => quit false
  | 'Q' => quit true
  | '=' => some (.number, 0)
  | 'n' => some (.next, 0)
  | 'N' => some (.join, 0)
  | 'a' => (addedText? rest).map fun (text, n) => (.append text, n)
  | 'i' => (addedText? rest).map fun (text, n) => (.insert text, n)
  | 'c' => (addedText? rest).map fun (text, n) => (.change text, n)
  | 'h' => some (.hold, 0)
  | 'H' => some (.holdAppend, 0)
  | 'g' => some (.get, 0)
  | 'G' => some (.getAppend, 0)
  | 'x' => some (.swap, 0)
  | '\x7b' => some (.opening, 0)
  | '\x7d' => some (.closing, 0)
  | ':' => named .label
  | 'b' => named .goto
  | 't' => named (.gotoIf false)
  | 'T' => named (.gotoIf true)
  | _ => none

/-- Reads an address, and how many bytes it takes; the text may begin with none. -/
def address? (extended : Bool) (text : Bytes) : Option (Option (Address × Nat)) :=
  match text with
  | 0x24 :: _ => some (some (.last, 1))
  | 0x2F :: rest => do
    let (pattern, taken) ← patternText? 0x2F rest
    let (p, _) ← Pattern.read? extended pattern
    let fold := (rest.drop taken).head? == some 0x49
    some (some (.matching p fold, taken + 1 + if fold then 1 else 0))
  | text =>
    let (n, digits) := digitsIn 10 text.length text
    if digits = 0 then some none
    else
      match text.drop digits with
      | 0x7E :: rest =>
        let (step, more) := digitsIn 10 rest.length rest
        some (some (.every n step, digits + 1 + more))
      | _ => some (some (.line n, digits))

/-- Reads the addresses of a command, and how many bytes they take. -/
def addresses? (extended : Bool) (text : Bytes) :
    Option (Option Address × Option Address × Nat) := do
  match ← address? extended text with
  | none => some (none, none, 0)
  | some (start, n) =>
    let lead := skipped false (text.drop n)
    match text.drop (n + lead) with
    | 0x2C :: rest =>
      let blanks := skipped false rest
      match ← address? extended (rest.drop blanks) with
      | some (stop, m) => some (some start, some stop, n + lead + 1 + blanks + m)
      | none => none
    | _ => some (some start, none, n + lead)

/-- Whether an action ends at the next command without a separator. -/
def Action.endsItself : Action → Bool
  | .opening => true
  | _ => false

/-- Reads one command, and what follows it. -/
def command? (extended : Bool) (text : Bytes) : Option (Command × Bytes) := do
  let (start, stop, n) ← addresses? extended text
  let text := text.drop n
  let (negated, text) := match text.drop (skipped false text) with
    | 0x21 :: rest => (true, rest.drop (skipped false rest))
    | text => (false, text)
  match text with
  | [] => none
  | letter :: rest => do
    let (action, taken) ← action? extended letter rest
    let rest := rest.drop taken
    let rest := rest.drop (skipped false rest)
    let command : Command := { start, stop, negated, action }
    if action.endsItself then some (command, rest)
    else
      match rest with
      | [] => some (command, [])
      | b :: more =>
        if b = 0x0A ∨ b = 0x3B then some (command, more)
        else if b = 0x23 ∨ b = 0x7D then some (command, rest)
        else none

/-- How much deeper in braces the editor is behind an action; `none` if a brace closes
nothing. -/
def Action.depthAfter? (depth : Nat) : Action → Option Nat
  | .opening => some (depth + 1)
  | .closing => if depth = 0 then none else some (depth - 1)
  | _ => some depth

/-- Reads a script; `depth` counts the braces that are open. -/
def commands? (extended : Bool) (depth : Nat) : Nat → Bytes → Option (List Command)
  | 0, _ => none
  | fuel + 1, text =>
    match text.drop (skipped true text) with
    | [] => if depth = 0 then some [] else none
    | 0x23 :: rest => commands? extended depth fuel (rest.dropWhile (· != 0x0A))
    | text => do
      let (command, rest) ← command? extended text
      let depth ← command.action.depthAfter? depth
      some (command :: (← commands? extended depth fuel rest))

/-- The label that an action goes to, if there is one. -/
def Action.target? : Action → Option Bytes
  | .goto name | .gotoIf _ name => if name.isEmpty then none else some name
  | _ => none

/-- Reads a script in which every label that is gone to is there. -/
def readScript? (extended : Bool) (text : Bytes) : Option (List Command) := do
  let script ← commands? extended 0 (text.length + 1) text
  let labels := script.filterMap fun c => match c.action with
    | .label name => some name
    | _ => none
  if script.all fun c => (c.action.target?).all labels.contains then some script else none

end ReplayProxy.Program.Sed
