import ReplayProxy.Program.Shell.Syntax
import ReplayProxy.Program.Tools

/-!
# The state of a shell

Where the two output channels go, what has been written, the variables, and the status of
the last command. What a command writes goes through `State.write`, which looks up where
its channel leads at that moment; so redirections need only change that.
-/

namespace ReplayProxy.Program.Shell

/-- Where a channel leads. -/
inductive Sink where
  | output
  | errors
  | nowhere
  /-- To the text that is being collected at a level, counted from the outermost. -/
  | collected (level : Nat)
  | file (path : String)
  deriving DecidableEq, Repr

/-- How the commands that follow are skipped. -/
inductive Leave where
  | exit (status : Status)
  | fromFunction
  | fromLoop
  | fromRound
  deriving DecidableEq, Repr

/-- A shell between two commands. -/
structure State where
  files : FileTree
  /-- What is left of the standard input. -/
  input : Bytes
  out : Sink := .output
  err : Sink := .errors
  output : Bytes := []
  errors : Bytes := []
  /-- The texts that are being collected, the innermost last. -/
  collected : List Bytes := []
  bindings : List (String × Bytes) := []
  functions : List (String × Command) := []
  /-- What the script is called in messages. -/
  name : Bytes
  arguments : List Bytes := []
  /-- The line feeds of the script. -/
  lines : Nat := 0
  /-- The status of the last command. -/
  status : Nat := 0
  leaving : Option Leave := none
  /-- Whether a command that fails ends the shell. -/
  strict : Bool := false
  /-- Whether the command under way is a condition, which may fail. -/
  guarded : Bool := false
  slept : Nat := 0

namespace State

/-- Writes to a sink. -/
def writeTo (s : State) (sink : Sink) (b : Bytes) : State :=
  match sink with
  | .output => { s with output := s.output ++ b }
  | .errors => { s with errors := s.errors ++ b }
  | .nowhere => s
  | .collected level => { s with collected := s.collected.modify level (· ++ b) }
  | .file path =>
    match s.files.write path (((s.files.read path).toOption.getD []) ++ b) with
    | .ok files => { s with files }
    | .error _ => s

/-- Writes to the output. -/
def write (s : State) (b : Bytes) : State := s.writeTo s.out b

/-- Writes to the errors. -/
def complain (s : State) (b : Bytes) : State := s.writeTo s.err b

/-- A message of the shell about a line of its script; `left` counts the line feeds behind. -/
def report (s : State) (left : Nat) (message : Bytes) : State :=
  s.complain (s.name ++ raw (": " ++ toString (s.lines - left + 1) ++ ": ") ++ message ++ raw "\n")

/-- Leaves the shell with a status. -/
def exit (s : State) (status : Status) : State := { s with leaving := some (.exit status) }

/-- The state after so many rounds that the shell counts as stuck. -/
def stuck (s : State) : State := { s.exit (.code 0) with slept := s.slept + 86400000 }

/-- The status that a program leaves behind. -/
def codeOf : Status → Nat
  | .code n => n
  | .signal n => 128 + n

/-- Ends the shell if it is strict and the command has failed. -/
def settle (s : State) : State :=
  if s.strict && !s.guarded && s.status != 0 && s.leaving.isNone then s.exit (.code s.status) else s

/-- Runs a condition: what fails in it does not end the shell. -/
def guarding (s : State) (run : State → State) : State :=
  { run { s with guarded := true } with guarded := s.guarded }

/-- Runs something in a copy of the shell: what it writes and leaves of the input stays,
and so does its status; its variables do not. A signal to the shell ends the copy and the
shell itself. -/
def within (s : State) (run : State → State) : State :=
  let inner := run s
  { s with
    files := inner.files
    input := inner.input
    output := inner.output
    errors := inner.errors
    collected := inner.collected
    slept := inner.slept
    leaving := match inner.leaving with
      | some (.exit (.signal n)) => some (.exit (.signal n))
      | _ => s.leaving
    status := match inner.leaving with
      | some (.exit status) => codeOf status
      | _ => inner.status }

/-- Runs something in a copy of the shell and collects what it writes. -/
def collect (s : State) (run : State → State) : State × Bytes :=
  let level := s.collected.length
  let inner :=
    State.within { s with collected := s.collected ++ [[]], out := .collected level } run
  ({ inner with collected := inner.collected.take level, out := s.out },
    inner.collected.getD level [])

/-- Takes in what a program did. -/
def absorb (s : State) (ran : Ran) : State :=
  { (s.complain ran.errors).write ran.output with
    input := ran.rest, status := codeOf ran.status, slept := s.slept + ran.slept }

/-! ### Parameters -/

/-- The process number that `$$` stands for. -/
def processNumber : Bytes := raw "4242"

/-- Gives a variable a value. -/
def bind (s : State) (name : String) (value : Bytes) : State :=
  { s with bindings := (name, value) :: s.bindings.filter (·.1 != name) }

/-- Takes a variable's value away. -/
def unbind (s : State) (name : String) : State :=
  { s with bindings := s.bindings.filter (·.1 != name) }

/-- The value of a parameter, if it has one. -/
def value? (s : State) (name : String) : Option Bytes :=
  match name with
  | "$" => some processNumber
  | "?" => some (raw (toString s.status))
  | "#" => some (raw (toString s.arguments.length))
  | "@" | "*" => if s.arguments.isEmpty then none else some (spaced s.arguments)
  | "0" => some s.name
  | "-" => some (if s.strict then raw "e" else [])
  | "!" => none
  | name =>
    match Ascii.decimal? name.toList with
    | some n => s.arguments[n - 1]?
    | none =>
      match s.bindings.lookup name with
      | some v => some v
      | none => if name = "IFS" then some (raw " \t\n") else none

/-- The bytes at which fields are split. -/
def separators (s : State) : Bytes := (s.value? "IFS").getD []

end State

end ReplayProxy.Program.Shell
