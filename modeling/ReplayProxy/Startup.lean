import ReplayProxy.Options.CommandLine

/-!
# Startup

What the program makes of its arguments before it listens: it answers questions about
itself, reports arguments that it cannot use and options that make no sense together, and
otherwise says in which mode and where it is to run.
-/

namespace ReplayProxy.Startup

/-- How a start ends: what is said, and the code that tells success from failure. -/
structure Outcome where
  text : String
  code : UInt32
  deriving DecidableEq, Repr

/-- The version of the program. -/
def version : String := "understudy 0.3.0"

/-- The line of an argument in the help. -/
def helpLine (k : CommandLine.Known) : String :=
  let short := match k.short with
    | some c => "-" ++ c.toString ++ ", "
    | none => "    "
  let value := match k.effect with
    | .setting _ | .collected _ => " <VALUE>"
    | .switch _ | .question _ => ""
  "  " ++ short ++ "--" ++ k.long ++ value

/-- The help. -/
def help : String :=
  String.intercalate "\n"
    (["Usage: understudy [OPTIONS]", "", "Options:"] ++ CommandLine.known.map helpLine)

/-- The sentence on a usage error. -/
def usageText : UsageError → String
  | .invalidValue => "error: a value is missing or not among those that are possible"
  | .valueValidation => "error: a value cannot be read"
  | .unknownArgument => "error: an argument is not known"
  | .argumentConflict => "error: an argument is given twice"
  | .tooManyValues => "error: an argument that takes no value is given one"
  | .displayHelp => help
  | .displayVersion => version

/-- Why the program does not start. -/
inductive Fault where
  | options (cause : OptionsError)
  | administration (cause : Admin.ServerError)
  deriving DecidableEq, Repr

/-- The sentence on a fault. -/
def Fault.message : Fault → String
  | .options e => "Invalid configuration: " ++ e.message
  | .administration e => "Invalid admin API configuration: " ++ e.message

/-- What the program says when its options make sense. -/
def summary (o : Options) : Except Fault String := do
  let settings ← o.engineSettings.mapError .options
  let proxy ← o.proxyAddress.mapError .options
  let admin ← o.adminSettings.address.mapError .administration
  return "Understudy in " ++ settings.mode.name ++ " mode (proxy " ++ proxy.render ++ ", admin " ++
    admin.render ++ ")"

/-- What comes of the arguments of the program. -/
def run (args : List String) : Outcome :=
  match CommandLine.parse args with
  | .error .displayHelp => ⟨help, 0⟩
  | .error .displayVersion => ⟨version, 0⟩
  | .error e => ⟨usageText e, 2⟩
  | .ok o =>
    match summary o with
    | .ok text => ⟨text, 0⟩
    | .error e => ⟨"Error: " ++ e.message, 1⟩

end ReplayProxy.Startup
