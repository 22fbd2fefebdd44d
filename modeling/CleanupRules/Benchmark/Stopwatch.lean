import CleanupRules.Benchmark

/-!
Measuring a benchmark. Which clock is read is left open, so that the same passes can be timed while
the program runs and be reasoned about.
-/

namespace CleanupRules

/-- A clock in nanoseconds, and a way to have work done between two readings of it. What the work
yields does not depend on its being timed. -/
structure Stopwatch (m : Type → Type) [Monad m] where
  read : m Nat
  work {α : Type} : (Unit → α) → m α
  work_eq {α : Type} (task : Unit → α) : work task = pure (task ())

variable {m : Type → Type} [Monad m]

namespace Stopwatch

/-- Times passes one by one, each of which goes on from what the one before it has left. -/
def timed (watch : Stopwatch m) {σ : Type} (pass : σ → σ) :
    Nat → σ → Array Nat → m (σ × Array Nat)
  | 0, state, times => pure (state, times)
  | passes + 1, state, times => do
      let start ← watch.read
      let next ← watch.work fun _ => pass state
      let stop ← watch.read
      watch.timed pass passes next (times.push (stop - start))

/-- What a number of passes leave, and their times from the shortest to the longest. -/
def measure (watch : Stopwatch m) {σ : Type} (pass : σ → σ) (passes : Nat) (state : σ) :
    m (σ × Array Nat) := do
  let (state, times) ← watch.timed pass passes state #[]
  pure (state, times.qsort (· < ·))

end Stopwatch

namespace Benchmark

/-- What is found by measuring: the times, and how many pairs matched in all iterations. -/
structure Measured where
  times : Times
  hits : Nat

/-- Measures writing patterns, compiling and matching, in this order. The hits are counted in the
passes that are timed. -/
def measure (benchmark : Benchmark) (watch : Stopwatch m) : m Measured := do
  let rules := benchmark.rules
  let (_, source) ← watch.measure (fun _ => rules.map Rule.source) benchmark.iterations []
  let (_, compile) ← watch.measure (fun _ => rules.map Matcher.compile) benchmark.iterations []
  let matchers := rules.map Matcher.compile
  let (hits, test) ← watch.measure (countHits matchers benchmark.hosts) benchmark.iterations 0
  pure ⟨⟨source, compile, test⟩, hits⟩

end Benchmark

end CleanupRules
