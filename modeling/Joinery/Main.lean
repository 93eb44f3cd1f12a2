import Joinery.Setup.Command

/-! The command line: arguments go in, a message and an exit status come out. -/

namespace Joinery

/--
The machine on which the command runs.

The database of a run stays in memory and none of its dates is shown, so any moment will do.
-/
def commandHost : Host := ⟨epoch, .smallest⟩

end Joinery

/-- Runs the command; complaints go to the error stream. -/
def main (arguments : List String) : IO UInt32 := do
  let outcome := Joinery.runCommand arguments [] Joinery.commandHost
  if outcome.status = 0 then IO.println outcome.message else IO.eprintln outcome.message
  return outcome.status.toUInt32
