import CleanupRules.Benchmark.Stopwatch
import CleanupRules.CommandLine.Run

/-!
Command lines run with a clock. Only a benchmark looks at it, and not before it is known to have
iterations.
-/

namespace CleanupRules.CommandLine

variable {m : Type → Type} [Monad m]

/-- What a command prints. The hits of a benchmark are those of all its iterations, shared among
them. -/
def Command.perform (watch : Stopwatch m) : Command → m Printed
  | .bench benchmark =>
      if benchmark.iterations = 0 then pure (.error .noIterations)
      else do
        let measured ← benchmark.measure watch
        pure (.ok (benchmark.report measured.times (measured.hits / benchmark.iterations)))
  | command => pure (command.lines {})

/-- Runs a command line whose benchmark is timed on the way. -/
def perform (watch : Stopwatch m) (arguments : List (List Char)) : m Outcome := do
  match Command.parse arguments with
  | .error error => pure (.refused error)
  | .ok command =>
      let printed ← command.perform watch
      pure (Outcome.ofPrinted printed)

end CleanupRules.CommandLine
