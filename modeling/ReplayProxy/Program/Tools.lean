import ReplayProxy.Program.Filter
import ReplayProxy.Program.Printing
import ReplayProxy.Program.Sed.Editor

/-!
# Small programs

The usual small programs of POSIX by their names: `cat`, `true`, `false`, `echo`, `printf`,
`tr`, `head`, `sleep`, `base64` and `sed`.
-/

namespace ReplayProxy.Program

/-- The last component of the path of a program in a usual directory. -/
def programName (name : String) : String :=
  if name.startsWith "/bin/" then (name.drop 5).toString
  else if name.startsWith "/usr/bin/" then (name.drop 9).toString
  else name

/-- Runs a program by its name; `none` for a name that belongs to no program. -/
def tool? (files : FileTree) (name : String) (args : List Bytes) (input : Bytes) : Option Ran :=
  match programName name with
  | "cat" => some (cat files args input)
  | "true" => some { rest := input }
  | "false" => some { status := .code 1, rest := input }
  | "echo" => some { output := echo args, rest := input }
  | "printf" => some (printf .program args input)
  | "tr" => some (tr args input)
  | "head" => some (head files args input)
  | "sleep" => some (sleep args input)
  | "base64" => some (base64 files args input)
  | "sed" => some (Sed.sed files args input)
  | _ => none

end ReplayProxy.Program
