import ReplayProxy.Program.Shell.Expansion

/-!
# Commands of the shell itself

The commands that change the shell or ask it something, and that therefore are no programs:
`exit`, `kill`, `test`, `read`, `set` and the like. Each is a function from the state and the
arguments to the state.
-/

namespace ReplayProxy.Program.Shell

namespace State

/-- Succeeds or fails. -/
def answer (s : State) (b : Bool) : State := { s with status := if b then 0 else 1 }

/-- Fails with a message after the name of the command. -/
def refuse (s : State) (left : Nat) (command message : String) (code : Nat) : State :=
  { s.report left (raw (command ++ ": " ++ message)) with status := code }

/-! ### Ending -/

/-- `exit`, with the status of the last command unless told otherwise. -/
def exitWith (s : State) (left : Nat) : List Bytes → State
  | [] => s.exit (.code s.status)
  | a :: _ =>
    match decimal? a with
    | some n => s.exit (.code (n % 256))
    | none =>
      (s.refuse left "exit" ("Illegal number: " ++ Utf8.lossy a) 2).exit (.code 2)

/-- The signals that do not end a process. -/
def harmless : List Nat := [0, 17, 18, 23, 28]

/-- The number of a signal as written. -/
def signal? (text : Bytes) : Option Nat :=
  match decimal? text with
  | some n => if n < 65 then some n else none
  | none =>
    let name := "SIG" ++ (Utf8.lossy text).map Char.toUpper
    (Status.signalNames.find? fun entry => entry.2 = name).map (·.1)

/-- Sends a signal. Only the shell itself can be reached. -/
def kill (s : State) (left : Nat) (args : List Bytes) : State :=
  let (signal, targets) := match args with
    | (0x2D :: 0x73 :: []) :: name :: rest => (signal? name, rest)
    | (0x2D :: name) :: rest => (signal? name, rest)
    | targets => (some 15, targets)
  match signal with
  | none => s.refuse left "kill" "Illegal option" 2
  | some n =>
    if targets.contains processNumber then
      if harmless.contains n then s.answer true else s.exit (.signal n)
    else s.refuse left "kill" "No such process" 1

/-! ### Asking -/

/-- Whether a text is a question about one operand, and its answer. -/
def question? (s : State) (letter : Bytes) (operand : Bytes) : Option Bool :=
  let path := Utf8.lossy operand
  match Utf8.lossy letter with
  | "-n" => some !operand.isEmpty
  | "-z" => some operand.isEmpty
  | "-e" | "-r" => some (s.files.contains path)
  | "-f" => match s.files.find path with
    | .ok .directory | .error _ => some false
    | .ok _ => some true
  | "-d" => match s.files.find path with
    | .ok .directory => some true
    | _ => some false
  | "-s" => some (((s.files.read path).toOption.getD []).length != 0)
  | "-w" => match s.files.find path with
    | .ok (.file _ writable) => some writable
    | .ok _ => some true
    | .error _ => some false
  | "-x" => match s.files.find path with
    | .ok .directory => some true
    | _ => some false
  | "-L" | "-h" | "-p" | "-b" | "-c" | "-S" | "-t" => some false
  | _ => none

/-- Whether a text compares two operands, and the answer. -/
def comparison? (operator : Bytes) (a b : Bytes) : Option (Option Bool) :=
  let numbers (holds : Int → Int → Bool) : Option (Option Bool) :=
    match signedNumber a, signedNumber b with
    | (x, true), (y, true) =>
      if a.isEmpty || b.isEmpty then some none else some (some (holds x y))
    | _, _ => some none
  match Utf8.lossy operator with
  | "=" | "==" => some (some (a == b))
  | "!=" => some (some (a != b))
  | "<" => some (some (a < b))
  | ">" => some (some (b < a))
  | "-eq" => numbers (· == ·)
  | "-ne" => numbers (· != ·)
  | "-lt" => numbers (· < ·)
  | "-le" => numbers (· ≤ ·)
  | "-gt" => numbers (fun x y => y < x)
  | "-ge" => numbers (fun x y => y ≤ x)
  | _ => none

/-- The answer to a question in words; `none` if it cannot be understood. -/
def test? (s : State) : Nat → List Bytes → Option Bool
  | 0, _ => none
  | _ + 1, [] => some false
  | _ + 1, [a] => some !a.isEmpty
  | fuel + 1, args =>
    let joinedBy (word : Bytes) (combine : Bool → Bool → Bool) : Option (Option Bool) :=
      match args.idxOf? word with
      | some i =>
        if i = 0 then none
        else some do
          some (combine (← test? s fuel (args.take i)) (← test? s fuel (args.drop (i + 1))))
      | none => none
    match args with
    | [a, operator, b] =>
      match comparison? operator a b with
      | some answer => answer
      | none =>
        if a = raw "!" then (test? s fuel [operator, b]).map (!·)
        else if a = raw "(" ∧ b = raw ")" then test? s fuel [operator]
        else if operator = raw "-a" then some (!a.isEmpty && !b.isEmpty)
        else if operator = raw "-o" then some (!a.isEmpty || !b.isEmpty)
        else none
    | [letter, operand] =>
      if letter = raw "!" then (test? s fuel [operand]).map (!·) else s.question? letter operand
    | args =>
      -- what joins questions binds them least, and -o less than -a
      match joinedBy (raw "-o") (· || ·), joinedBy (raw "-a") (· && ·) with
      | some answer, _ => answer
      | none, some answer => answer
      | none, none =>
        match args with
        | a :: rest => if a = raw "!" then (test? s fuel rest).map (!·) else none
        | [] => none

/-- `test`, or with `bracket` its other spelling, which ends in a bracket. -/
def ask (s : State) (left : Nat) (bracket : Bool) (args : List Bytes) : State :=
  if bracket && args.getLast? != some (raw "]") then s.refuse left "[" "missing ]" 2
  else
    let words := if bracket then args.dropLast else args
    match s.test? (words.length + 1) words with
    | some b => s.answer b
    | none => s.refuse left (if bracket then "[" else "test") "unexpected operator" 2

/-! ### Reading lines -/

/-- The next line of an input: its bytes, each with whether a backslash stood before it, what
follows the line, and whether it was finished. -/
def nextLine (plain : Bool) : Bytes → List (UInt8 × Bool) × Bytes × Bool
  | [] => ([], [], false)
  | 0x5C :: b :: rest =>
    if plain then
      let (line, left, finished) := nextLine plain (b :: rest)
      ((0x5C, false) :: line, left, finished)
    else
      let (line, left, finished) := nextLine plain rest
      (if b = 0x0A then line else (b, true) :: line, left, finished)
  | b :: rest =>
    if b = 0x0A then ([], rest, true)
    else
      let (line, left, finished) := nextLine plain rest
      ((b, false) :: line, left, finished)

/-- Splits a line among variables: each gets a field, and the last one the rest. -/
def shareOut (s : State) (separators : Bytes) : List String → List (UInt8 × Bool) → State
  | [], _ => s
  | name :: more, line =>
    let blank (m : UInt8 × Bool) : Bool :=
      !m.2 && separators.contains m.1 && (m.1 == 0x20 || m.1 == 0x09 || m.1 == 0x0A)
    let line := line.dropWhile blank
    if more.isEmpty then
      s.bind name (((line.reverse.dropWhile blank).reverse).map (·.1))
    else
      let field := line.takeWhile fun m => m.2 || !separators.contains m.1
      shareOut (s.bind name (field.map (·.1))) separators more
        (((line.drop field.length).dropWhile blank).drop
          (if ((line.drop field.length).dropWhile blank).head?.any
              (fun m => !m.2 && separators.contains m.1) then 1 else 0))

/-- `read`: takes a line of the input apart. -/
def readInput (s : State) (args : List Bytes) : State :=
  let (plain, names) := match args with
    | a :: rest => if a = raw "-r" then (true, rest) else (false, args)
    | [] => (false, args)
  let (line, left, finished) := nextLine plain s.input
  let s := State.shareOut { s with input := left } s.separators (names.map Utf8.lossy) line
  s.answer finished

/-! ### Settings -/

/-- `set`: options, and new arguments after `--`. -/
def setOptions (s : State) : List Bytes → State
  | [] => { s with status := 0 }
  | a :: rest =>
    if a = raw "--" then { s with arguments := rest, status := 0 }
    else
      match a with
      | 0x2D :: letters => setOptions { s with strict := s.strict || letters.contains 0x65 } rest
      | 0x2B :: letters => setOptions { s with strict := s.strict && !letters.contains 0x65 } rest
      | _ => { s with arguments := a :: rest, status := 0 }

/-- `export` and its like: the arguments that are assignments are made. -/
def declare (s : State) (args : List Bytes) : State :=
  let s := args.foldl
    (fun s a =>
      match a.span (· != 0x3D) with
      | (name, _ :: value) => s.bind (Utf8.lossy name) value
      | _ => s)
    s
  { s with status := 0 }

/-- Runs a command of the shell; `none` for a name that is none. -/
def builtin? (s : State) (left : Nat) (name : String) (args : List Bytes) : Option State :=
  match name with
  | ":" | "true" => some (s.answer true)
  | "false" => some (s.answer false)
  | "exit" => some (s.exitWith left args)
  | "echo" => some { s.write (shellEcho args) with status := 0 }
  | "printf" => some (s.absorb (printf .shell args s.input))
  | "kill" => some (s.kill left args)
  | "test" => some (s.ask left false args)
  | "[" => some (s.ask left true args)
  | "read" => some (s.readInput args)
  | "set" => some (s.setOptions args)
  | "shift" =>
    let n := (args.head?.bind decimal?).getD 1
    if n ≤ s.arguments.length then some { s with arguments := s.arguments.drop n, status := 0 }
    else some ((s.refuse left "shift" "can't shift that many" 2).exit (.code 2))
  | "export" | "readonly" | "local" => some (s.declare args)
  | "unset" =>
    some { args.foldl (fun s a => s.unbind (Utf8.lossy a)) s with status := 0 }
  | "return" =>
    some
      { s with
        leaving := some .fromFunction
        status := (args.head?.bind decimal?).getD s.status }
  | "break" => some { s with leaving := some .fromLoop, status := 0 }
  | "continue" => some { s with leaving := some .fromRound, status := 0 }
  | "trap" | "umask" | "wait" | "cd" | "hash" | "ulimit" => some (s.answer true)
  | _ => none

end State

end ReplayProxy.Program.Shell
