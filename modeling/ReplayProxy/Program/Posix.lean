import ReplayProxy.Program.Shell.Run

/-!
# Starting programs

The programs of a usual system over a tree of files: the small programs, and the shell with
its scripts.

This module and those that it is built on (`Program.Shell`, `Program.Sed`, `Program.Tools`,
`Program.Filter`, `Program.Printing` and `Program.Escape`) stand for the local programs of the
machine, so that a proxy with transforms can be run. They are one choice of `Surroundings`. No
law depends on them: what is proved about transforms is proved for arbitrary surroundings.
-/

namespace ReplayProxy.Program

/-- Starts a program among the usual small ones. A program that sleeps as long as its limit
overruns it. Neither the name nor an argument can hold a zero byte, which ends them. -/
def posix (files : FileTree) (call : Call) : Outcome :=
  if (call.program :: call.arguments).any fun text => text.toList.contains '\x00' then
    .notStarted "nul byte found in provided data"
  else
    let args := call.arguments.map raw
    let ran := if programName call.program = "sh" then some (Shell.run files args call.input)
      else tool? files call.program args call.input
    match ran with
    | none =>
      .notStarted (match files.find call.program with
        | .ok _ => "permission denied"
        | .error e => e.message)
    | some ran =>
      if call.limit.any (· ≤ ran.slept) then .overran
      else .ended ran.status ran.output ran.errors

end ReplayProxy.Program
