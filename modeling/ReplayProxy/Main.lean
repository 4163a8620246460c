import ReplayProxy.Startup

/-!
# The program

Prints what comes of the arguments: on the standard output if they can be used, and on the
standard error if not.
-/

/-- Runs the program. -/
def main (args : List String) : IO UInt32 := do
  let outcome := ReplayProxy.Startup.run args
  if outcome.code = 0 then IO.println outcome.text else IO.eprintln outcome.text
  return outcome.code
