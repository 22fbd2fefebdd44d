import CleanupRules.CommandLine.Timed

/-!
The program. Here alone the clock is read and text leaves the program.
-/

namespace CleanupRules.CommandLine

/-- The clock of the machine. -/
def stopwatch : Stopwatch IO where
  read := IO.monoNanosNow
  work := IO.lazyPure
  work_eq _ := rfl

end CleanupRules.CommandLine

open CleanupRules CleanupRules.CommandLine

def main (arguments : List String) : IO UInt32 := do
  let outcome ← perform stopwatch (arguments.map String.toList)
  IO.print (String.ofList outcome.standardOutput)
  IO.eprint (String.ofList outcome.standardError)
  pure outcome.exitCode.toUInt32
