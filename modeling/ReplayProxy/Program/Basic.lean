import ReplayProxy.Text.Utf8

/-!
# Local programs

A transform may be a local program: it is started with its arguments, is given bytes on
its standard input, and ends with a status and what it wrote. This module says what can
happen to such a call; `Program.Posix` says what the usual small programs do.
-/

namespace ReplayProxy.Program

/-- How a program ended. -/
inductive Status where
  | code (value : Nat)
  | signal (number : Nat)
  deriving DecidableEq, Repr

namespace Status

/-- Whether the program reports success. -/
def succeeded (s : Status) : Bool := s == .code 0

/-- The names of the signals that end a program. -/
def signalNames : List (Nat × String) :=
  [(1, "SIGHUP"), (2, "SIGINT"), (3, "SIGQUIT"), (4, "SIGILL"), (5, "SIGTRAP"), (6, "SIGABRT"),
   (7, "SIGBUS"), (8, "SIGFPE"), (9, "SIGKILL"), (10, "SIGUSR1"), (11, "SIGSEGV"),
   (12, "SIGUSR2"), (13, "SIGPIPE"), (14, "SIGALRM"), (15, "SIGTERM")]

/-- The words for a status. -/
def describe : Status → String
  | .code n => "exit status: " ++ toString n
  | .signal n =>
    match signalNames.lookup n with
    | some name => "signal: " ++ toString n ++ " (" ++ name ++ ")"
    | none => "signal: " ++ toString n

end Status

/-- A program to start. -/
structure Call where
  program : String
  arguments : List String
  /-- What it is given on its standard input. -/
  input : Bytes
  /-- The milliseconds it may take, if they are limited. -/
  limit : Option Nat

/-- What comes of a call. -/
inductive Outcome where
  /-- The program could not be started. -/
  | notStarted (reason : String)
  /-- It ended, having written `output` and `errors`. -/
  | ended (status : Status) (output errors : Bytes)
  /-- It took too long and was stopped. -/
  | overran
  /-- Talking to it failed. -/
  | broken (reason : String)

/-- What one program did when it ran to its end. -/
structure Ran where
  output : Bytes := []
  errors : Bytes := []
  status : Status := .code 0
  /-- What it left of its input. -/
  rest : Bytes := []
  /-- The milliseconds it slept. -/
  slept : Nat := 0

/-- A failure with a line on the error channel. -/
def Ran.failure (code : Nat) (line : String) (rest : Bytes) : Ran :=
  { errors := Bytes.ofText (line ++ "\n"), status := .code code, rest }

end ReplayProxy.Program
