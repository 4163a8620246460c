import ReplayProxy.Program.Sed.Command

/-!
# The line editor

Each line of the input is taken in turn as the text at hand; the commands that are for it
are carried out, and in the end it is written, unless a command or an option says
otherwise. A last line without a line feed is written without one, unless something
follows it.
-/

namespace ReplayProxy.Program.Sed

/-! ### Replacing -/

/-- A letter of ASCII in upper case. -/
def upperByte (b : UInt8) : UInt8 := if 0x61 ≤ b ∧ b ≤ 0x7A then b - 0x20 else b

/-- A byte in upper or lower case. -/
def caseByte (upper : Bool) (b : UInt8) : UInt8 := if upper then upperByte b else lowerByte b

/-- What a replacement writes for a match; `letters` and `next` are the cases in force. -/
def written (line : Array UInt8) (first : Nat) (spot : Spot) (letters next : Option Bool) :
    List Replacement → Bytes
  | [] => []
  | .letters upper :: rest => written line first spot upper none rest
  | .nextLetter upper :: rest => written line first spot letters (some upper) rest
  | piece :: rest =>
    let text := match piece with
      | .text value => value
      | .group 0 => (line.extract first spot.place).toList
      | .group n =>
        match spot.groups.lookup n with
        | some (a, b) => (line.extract a b).toList
        | none => []
      | _ => []
    let text := match letters with
      | some upper => text.map (caseByte upper)
      | none => text
    match next, text with
    | some upper, b :: more =>
      caseByte upper b :: (more ++ written line first spot letters none rest)
    | next, text => text ++ written line first spot letters next rest

/-- Replaces matches from a place on. `seen` counts the matches so far and `previous` is
where the last one ended: an empty match right there does not count. The result tells
whether anything was replaced. -/
def Substitution.from (s : Substitution) (search : Search) :
    Nat → Nat → Nat → Option Nat → Bytes × Bool
  | 0, place, _, _ => ((search.line.extract place search.line.size).toList, false)
  | fuel + 1, place, seen, previous =>
    match search.find? s.pattern (search.line.size + 1 - place) place with
    | none => ((search.line.extract place search.line.size).toList, false)
    | some (first, spot) =>
      let before := (search.line.extract place first).toList
      let empty : Bool := spot.place = first
      let counts := !(empty && previous == some first)
      let replaces := counts && s.nth.getD 1 ≤ seen + 1
      let new :=
        if replaces then written search.line first spot none none s.replacement
        else (search.line.extract first spot.place).toList
      let seen := if counts then seen + 1 else seen
      if replaces && !s.all then
        (before ++ new ++ (search.line.extract spot.place search.line.size).toList, true)
      else if empty then
        -- behind an empty match one byte is passed on, or the search would not move
        if first < search.line.size then
          let (rest, changed) := s.from search fuel (first + 1) seen none
          let next := (search.line.extract first (first + 1)).toList
          (before ++ new ++ next ++ rest, replaces || changed)
        else (before ++ new, replaces)
      else
        let (rest, changed) := s.from search fuel spot.place seen (some spot.place)
        (before ++ new ++ rest, replaces || changed)

/-- The search for a pattern in a line. -/
def searchIn (line : Bytes) (p : Pattern) (fold : Bool) : Search :=
  { line := line.toArray, fold, longest := p.hasAlternatives }

/-- Makes a substitution in a line. -/
def Substitution.apply (s : Substitution) (line : Bytes) : Bytes × Bool :=
  s.from (searchIn line s.pattern s.fold) (2 * line.length + 2) 0 0 none

/-! ### Editing -/

/-- An editor between two commands. -/
structure State where
  /-- The text at hand. -/
  line : Bytes := []
  /-- Whether a line feed followed it. -/
  finished : Bool := true
  /-- The lines that follow, each with whether a line feed follows it. -/
  rest : List (Bytes × Bool)
  /-- The text put aside, with the same. -/
  held : Bytes × Bool := ([], true)
  number : Nat := 0
  /-- What is written after the text at hand. -/
  queue : Bytes := []
  output : Bytes := []
  /-- Whether a line feed is written before anything else. -/
  owing : Bool := false
  /-- The places of the commands within whose ranges the editor is. -/
  active : List Nat := []
  /-- Whether something has been replaced since the text was taken or asked about. -/
  replaced : Bool := false
  /-- Set when the text at hand has been dealt with. -/
  done : Bool := false
  /-- Set when the commands begin again with the text at hand. -/
  again : Bool := false
  ended : Option Nat := none
  /-- Whether lines are written unasked. -/
  speaks : Bool

/-- Writes a text. -/
def State.write (s : State) (text : Bytes) (finished : Bool) : State :=
  { s with
    output := s.output ++ (if s.owing then [0x0A] else []) ++ text ++
      (if finished then [0x0A] else [])
    owing := !finished }

/-- Writes what was put off. -/
def State.release (s : State) : State :=
  if s.queue.isEmpty then s else { s.write s.queue.dropLast true with queue := [] }

/-- Writes the text at hand, if lines are written unasked, and what was put off. -/
def State.flush (s : State) : State :=
  (if s.speaks then s.write s.line s.finished else s).release

/-- Takes the next line as the text at hand. -/
def State.advance (s : State) : State :=
  match s.rest with
  | [] => s
  | (line, finished) :: rest => { s with line, finished, rest, number := s.number + 1 }

/-- Ends the editing. -/
def State.quit (s : State) (status : Nat) : State := { s with done := true, ended := some status }

/-- Whether the text at hand is at an address. -/
def Address.isAt (s : State) : Address → Bool
  | .line n => s.number == n
  | .every first step =>
    if step = 0 then s.number == first else first ≤ s.number && (s.number - first) % step == 0
  | .last => s.rest.isEmpty
  | .matching p fold =>
    ((searchIn s.line p fold).find? p (s.line.length + 1) 0).isSome

/-- Whether a range ends at the text at hand or before it. -/
def Address.isOver (s : State) : Address → Bool
  | .line n => n ≤ s.number
  | a => a.isAt s

/-- Whether a range that begins at the text at hand goes on. -/
def Address.goesOn (s : State) : Address → Bool
  | .line n => s.number < n
  | .last => !s.rest.isEmpty
  | _ => true

/-- Whether a command is for the text at hand, and which ranges go on. -/
def Command.selects (c : Command) (place : Nat) (s : State) : Bool × List Nat :=
  let (hit, active) := match c.start, c.stop with
    | none, _ => (true, s.active)
    | some a, none => (a.isAt s, s.active)
    | some a, some b =>
      let begun := match a with
        | .line 0 => s.number == 1 && !s.active.contains place
        | _ => false
      if s.active.contains place || begun then
        (true, if b.isOver s then s.active.filter (· != place)
          else if begun then place :: s.active else s.active)
      else if a.isAt s then (true, if b.goesOn s then place :: s.active else s.active)
      else (false, s.active)
  (hit != c.negated, active)

/-- The text up to its first line feed. -/
def firstLine (text : Bytes) : Bytes := text.takeWhile (· != 0x0A)

/-- Carries out an action that leads to no other place of the script. -/
def Action.apply (s : State) (inRange : Bool) : Action → State
  | .substitute sub =>
    let (line, changed) := sub.apply s.line
    let s := { s with line, replaced := s.replaced || changed }
    if changed && sub.print then s.write line s.finished else s
  | .exchange pairs => { s with line := s.line.map fun b => (pairs.lookup b).getD b }
  | .delete => { s with done := true }
  | .deleteFirst =>
    if s.line.contains 0x0A then
      { s with line := (s.line.dropWhile (· != 0x0A)).drop 1, done := true, again := true }
    else { s with done := true }
  | .print => s.write s.line s.finished
  | .printFirst => s.write (firstLine s.line) true
  | .quit status silent => if silent then s.quit status else s.flush.quit status
  | .number => s.write (raw (toString s.number)) true
  | .next =>
    if s.rest.isEmpty then s.flush.quit 0
    else s.flush.advance
  | .join =>
    if s.rest.isEmpty then s.flush.quit 0
    else
      let t := s.release.advance
      { t with line := s.line ++ [0x0A] ++ t.line }
  | .append text => { s with queue := s.queue ++ text }
  | .insert text => s.write text.dropLast true
  | .change text =>
    -- for a range the text is written at its last line
    if inRange then { s with done := true } else { s.write text.dropLast true with done := true }
  | .hold => { s with held := (s.line, s.finished) }
  | .holdAppend => { s with held := (s.held.1 ++ [0x0A] ++ s.line, s.finished) }
  | .get => { s with line := s.held.1, finished := s.held.2 }
  | .getAppend => { s with line := s.line ++ [0x0A] ++ s.held.1, finished := s.held.2 }
  | .swap => { s with line := s.held.1, finished := s.held.2, held := (s.line, s.finished) }
  | .opening | .closing | .label _ | .goto _ | .gotoIf _ _ => s

/-- The place behind the brace that closes the one before a place. -/
def behindBrace (script : Array Command) : Nat → Nat → Nat → Nat
  | 0, place, _ => place
  | fuel + 1, place, depth =>
    let action : Option Action := script[place]?.map fun c => c.action
    match action with
    | none => place
    | some .opening => behindBrace script fuel (place + 1) (depth + 1)
    | some .closing =>
      if depth = 0 then place + 1 else behindBrace script fuel (place + 1) (depth - 1)
    | some _ => behindBrace script fuel (place + 1) depth

/-- The place of a label; without a name, the end of the script. -/
def labelPlace (script : Array Command) (name : Bytes) : Nat :=
  if name.isEmpty then script.size
  else
    (script.findIdx? fun c => match c.action with
      | .label other => other == name
      | _ => false).getD script.size

/-- Carries out the commands from a place of the script on. -/
def State.carryOut (script : Array Command) : Nat → Nat → State → State
  | 0, _, s => s
  | fuel + 1, place, s =>
    if s.done then s
    else
      match script[place]? with
      | none => s
      | some c =>
        let (hit, active) := c.selects place s
        let s := { s with active }
        match c.action with
        | .opening =>
          carryOut script fuel
            (if hit then place + 1 else behindBrace script script.size (place + 1) 0) s
        | .goto name => carryOut script fuel (if hit then labelPlace script name else place + 1) s
        | .gotoIf negated name =>
          if hit then
            carryOut script fuel
              (if s.replaced != negated then labelPlace script name else place + 1)
              { s with replaced := false }
          else carryOut script fuel (place + 1) s
        | action =>
          -- the last line of a range is not active any more
          let inRange := c.stop.isSome && !c.negated && active.contains place
          carryOut script fuel (place + 1) (if hit then action.apply s inRange else s)

/-- The number of commands that may be carried out for one line. -/
def commandLimit : Nat := 100000

/-- Edits the lines that follow. -/
def State.edit (script : Array Command) : Nat → State → State
  | 0, s => s
  | fuel + 1, s =>
    if (s.rest.isEmpty && !s.again) || s.ended.isSome then s
    else
      let s := if s.again then s else { s.advance with replaced := false }
      let s := State.carryOut script commandLimit 0 { s with done := false, again := false }
      edit script fuel (if s.done then s.release else s.flush)

/-! ### The program -/

/-- What `sed` is told to do. -/
structure Options where
  quiet : Bool := false
  extended : Bool := false
  /-- The scripts of `-e`. -/
  scripts : List Bytes := []

/-- Reads the options of `sed`; what follows them are a script, if there is none yet, and
files. -/
def options? (o : Options) : List Bytes → Option (Options × List Bytes)
  | [] => some (o, [])
  | option :: rest =>
    match Utf8.lossy option with
    | "--quiet" | "--silent" => options? { o with quiet := true } rest
    | "--regexp-extended" => options? { o with extended := true } rest
    | "--" => some (o, rest)
    | "--posix" | "--unbuffered" | "--separate" => options? o rest
    | _ =>
      if (raw "--expression=").isPrefixOf option then
        options? { o with scripts := o.scripts ++ [option.drop 13] } rest
      else
        match option with
        | 0x2D :: b :: letters =>
          let flags := (b :: letters).takeWhile (· != 0x65)
          if !flags.all [0x6E, 0x45, 0x72, 0x75, 0x73].contains then none
          else
            let o := { o with
              quiet := o.quiet || flags.contains 0x6E
              extended := o.extended || flags.contains 0x45 || flags.contains 0x72 }
            match (b :: letters).drop flags.length, rest with
            | [], rest => options? o rest
            | [_], script :: rest => options? { o with scripts := o.scripts ++ [script] } rest
            | [_], [] => none
            | _ :: script, rest => options? { o with scripts := o.scripts ++ [script] } rest
        | word => (options? o rest).map fun (o, words) => (o, word :: words)

/-- The lines of a text, each with whether a line feed follows it. -/
def linesOf (text : Bytes) : List (Bytes × Bool) :=
  let pieces := text.splitOn 0x0A
  let last := pieces.getLastD []
  pieces.dropLast.map (·, true) ++ if last.isEmpty then [] else [(last, false)]

/-- Edits the lines of its input, or of the files that are named. -/
def sed (files : FileTree) (args : List Bytes) (input : Bytes) : Ran :=
  let plan := do
    let (o, words) ← options? {} args
    let (script, names) ← match o.scripts, words with
      | [], script :: names => some (script, names)
      | [], [] => none
      | scripts, names => some ([0x0A].intercalate scripts, names)
    some (o, ← readScript? o.extended script, names)
  match plan with
  | none => .failure 1 "sed: -e expression #1, char 1: unknown command" input
  | some (o, script, names) =>
    let ran := concatenate files "sed" names input
    let s := State.edit script.toArray (2 * ran.output.length + 2)
      { rest := linesOf ran.output, speaks := !o.quiet }
    { ran with
      output := s.output
      status := match s.ended with
        | some n => .code (n % 256)
        | none => if ran.status.succeeded then .code 0 else .code 2 }

end ReplayProxy.Program.Sed
