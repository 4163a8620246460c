import ReplayProxy.Options

/-!
# The command line

Options are given by switches, which stand alone, and by settings, which take a value. A
long name follows two hyphens, a short one a single hyphen; short switches can be written
together. A value is the rest of the argument after an equals sign or after a short name,
or else the next argument. It may not begin with a hyphen then, unless it is nothing else.

A setting takes effect when the next one begins or the arguments end; so an argument that
nobody knows is reported even if a value before it is wrong. Only imports may be repeated.
-/

namespace ReplayProxy

/-- Why the arguments give no options. -/
inductive UsageError where
  /-- A value is missing, or not among those that are possible. -/
  | invalidValue
  /-- A value cannot be read. -/
  | valueValidation
  | unknownArgument
  /-- Something is given twice. -/
  | argumentConflict
  /-- A switch is given a value. -/
  | tooManyValues
  /-- Help is asked for. -/
  | displayHelp
  /-- The version is asked for. -/
  | displayVersion
  deriving DecidableEq, Repr

/-- The name of a usage error. -/
def UsageError.name : UsageError → String
  | .invalidValue => "InvalidValue"
  | .valueValidation => "ValueValidation"
  | .unknownArgument => "UnknownArgument"
  | .argumentConflict => "ArgumentConflict"
  | .tooManyValues => "TooManyValues"
  | .displayHelp => "DisplayHelp"
  | .displayVersion => "DisplayVersion"

namespace CommandLine

/-- What an argument that is known does. -/
inductive Effect where
  /-- A switch. -/
  | switch (turn : Options → Options)
  /-- A setting, which takes a value. -/
  | setting (put : String → Options → Except UsageError Options)
  /-- A setting that may be repeated. -/
  | collected (put : String → Options → Options)
  /-- A question that ends the reading. -/
  | question (answer : UsageError)

/-- An argument that is known. -/
structure Known where
  long : String
  short : Option Char
  effect : Effect

/-! ### Values -/

/-- Reads a value that is possible at all. -/
def checked (e : UsageError) (read : String → Option α) (put : α → Options → Options)
    (value : String) (o : Options) : Except UsageError Options :=
  match read value with
  | some a => .ok (put a o)
  | none => .error e

/-- Takes a value as it is. -/
def text (put : String → Options → Options) : Effect := .setting fun v o => .ok (put v o)

/-- The digits of a number after its sign. -/
def magnitude? (s : String) : Option Nat :=
  match s.toList with
  | '+' :: digits => Ascii.decimal? digits
  | digits => Ascii.decimal? digits

/-- A port. Minus zero is zero. -/
def port? (s : String) : Option UInt16 :=
  let n := match s.toList with
    | '-' :: digits => (Ascii.decimal? digits).filter (· = 0)
    | _ => magnitude? s
  n.bind fun n => if n ≤ 65535 then some (UInt16.ofNat n) else none

/-- A number of seconds, of sixty-four bits. -/
def seconds? (s : String) : Option Nat := (magnitude? s).filter (· < 18446744073709551616)

/-- A path, which is not empty. -/
def path? (s : String) : Option String := if s.isEmpty then none else some s

/-- A truth value. -/
def truth? : String → Option Bool
  | "true" => some true
  | "false" => some false
  | _ => none

/-- A kind of storage. -/
def storage? : String → Option StorageKind
  | "sqlite" => some .database
  | "memory" => some .memory
  | _ => none

/-! ### What is known -/

/-- A switch for a mode. -/
def modeSwitch (m : Mode) : Known :=
  ⟨m.name, none, .switch fun o => { o with modes := o.modes ++ [m] }⟩

/-- Every argument that is known. -/
def known : List Known := [
  ⟨"proxy-port", some 'p',
    .setting (checked .valueValidation port? fun v o => { o with proxyPort := v })⟩,
  ⟨"admin-port", some 'a',
    .setting (checked .valueValidation port? fun v o => { o with adminPort := v })⟩,
  ⟨"host", none, text fun v o => { o with host := v }⟩,
  ⟨"db", none, .setting (checked .invalidValue storage? fun v o => { o with storage := v })⟩,
  ⟨"db-path", none, .setting (checked .invalidValue path? fun v o => { o with databasePath := v })⟩,
  ⟨"middleware", none, text fun v o => { o with transform := some v }⟩,
  ⟨"middleware-timeout", none,
    .setting (checked .valueValidation seconds? fun v o => { o with transformTimeout := some v })⟩,
  modeSwitch .capture, modeSwitch .simulate, modeSwitch .modify, modeSwitch .synthesize,
  ⟨"destination", none, text fun v o => { o with destination := v }⟩,
  ⟨"import", none, .collected fun v o => { o with imports := o.imports ++ [v] }⟩,
  ⟨"ca-dir", none,
    .setting (checked .invalidValue path? fun v o => { o with certificateDirectory := some v })⟩,
  ⟨"cert-name", none, text fun v o => { o with certificateName := v }⟩,
  ⟨"cert-org", none, text fun v o => { o with organization := v }⟩,
  ⟨"key-algorithm", none,
    .setting (checked .valueValidation (fun s => (KeyAlgorithm.parse s).toOption)
      fun v o => { o with keyAlgorithm := v })⟩,
  ⟨"generate-ca-cert", none, .switch fun o => { o with renewRoot := true }⟩,
  ⟨"tls-verification", none,
    .setting (checked .invalidValue truth? fun v o => { o with verify := v })⟩,
  ⟨"upstream-timeout", none,
    .setting (checked .valueValidation seconds? fun v o => { o with timeout := v })⟩,
  ⟨"metrics", none, .switch fun o => { o with metrics := true }⟩,
  ⟨"verbose", some 'v', .switch fun o => { o with verbose := true }⟩,
  ⟨"log-level", none, text fun v o => { o with logLevel := v }⟩,
  ⟨"log-dir", none,
    .setting (checked .invalidValue path? fun v o => { o with logDirectory := some v })⟩,
  ⟨"help", some 'h', .question .displayHelp⟩,
  ⟨"version", some 'V', .question .displayVersion⟩]

/-! ### Reading -/

/-- Where the reading of arguments stands. -/
structure State where
  options : Options := {}
  /-- The long names of what was given. -/
  given : List String := []
  /-- What was begun last and has not taken effect, with its value if that was there. -/
  pending : Option (Known × Option String) := none

namespace State

/-- Notes that something is given, which must not have been given before. -/
def give (s : State) (k : Known) : Except UsageError State :=
  if s.given.contains k.long then .error .argumentConflict
  else .ok { s with given := k.long :: s.given }

/-- Lets an argument take effect with the value it has. -/
def apply (s : State) (k : Known) (value : Option String) : Except UsageError State :=
  match k.effect, value with
  | .switch turn, _ => do
    let s ← s.give k
    return { s with options := turn s.options }
  | .question answer, _ => throw answer
  | _, none => throw .invalidValue
  | .setting put, some v => do
    let s ← s.give k
    return { s with options := ← put v s.options }
  | .collected put, some v => return { s with options := put v s.options }

/-- Lets what is pending take effect. -/
def settle (s : State) : Except UsageError State :=
  match s.pending with
  | none => .ok s
  | some (k, value) => apply { s with pending := none } k value

/-- Begins an argument, with its value if that is attached. -/
def start (s : State) (k : Known) (attached : Option String) : Except UsageError State := do
  match k.effect, attached with
  | .setting _, none | .collected _, none =>
    let s ← s.settle
    return { s with pending := some (k, none) }
  | .switch _, some _ | .question _, some _ => throw .tooManyValues
  | _, _ => (← s.settle).apply k attached

/-- Reads what follows two hyphens. -/
def long (s : State) (cs : List Char) : Except UsageError State :=
  let name := String.ofList (cs.takeWhile (· != '='))
  let value := match cs.dropWhile (· != '=') with
    | _ :: rest => some (String.ofList rest)
    | [] => none
  match known.find? fun k => k.long == name with
  | none => .error .unknownArgument
  | some k => s.start k value

/-- Reads what follows a single hyphen: switches, and a setting with its value. -/
def shorts (s : State) : List Char → Except UsageError State
  | [] => .ok s
  | c :: rest =>
    match known.find? fun k => k.short == some c with
    | none => .error .unknownArgument
    | some k =>
      match k.effect with
      | .setting _ | .collected _ =>
        match rest with
        | [] => s.start k none
        | '=' :: value => s.start k (some (String.ofList value))
        | value => s.start k (some (String.ofList value))
      | _ => do shorts (← s.start k none) rest

/-- Reads an argument that stands for a value. -/
def value (s : State) (v : String) : Except UsageError State :=
  match s.pending with
  | some (k, none) => .ok { s with pending := some (k, some v) }
  | _ => .error .unknownArgument

/-- Reads one argument. -/
def argument (s : State) (arg : String) : Except UsageError State :=
  match arg.toList with
  | '-' :: '-' :: cs => s.long cs
  | '-' :: c :: cs => s.shorts (c :: cs)
  | _ => s.value arg

/-- Reads arguments to their end. After two hyphens alone nothing may follow. -/
def arguments (s : State) : List String → Except UsageError State
  | [] => s.settle
  | "--" :: [] => s.settle
  | "--" :: _ :: _ => .error .unknownArgument
  | arg :: rest => do arguments (← s.argument arg) rest

end State

/-- The options that the arguments of a program give. -/
def parse (args : List String) : Except UsageError Options := do
  return (← State.arguments {} args).options

end CommandLine

end ReplayProxy
