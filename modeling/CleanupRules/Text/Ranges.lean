/-!
Tables of code points, given as increasing runs. A run may step over every second code point, as
alternating capital and small letters do. The tables of character properties are those of Unicode
17.0.
-/

namespace CleanupRules.Text

/-- The code points `first`, `first + step`, … up to `last`. -/
structure Run where
  first : Nat
  last : Nat
  step : Nat := 1

def Run.has (run : Run) (c : Char) : Bool :=
  run.first ≤ c.toNat && c.toNat ≤ run.last && (c.toNat - run.first) % run.step == 0

def inRuns (runs : List Run) (c : Char) : Bool :=
  runs.any (·.has c)

theorem inRuns_iff {runs : List Run} {c : Char} :
    inRuns runs c = true ↔ ∃ run ∈ runs, run.has c = true := by
  simp [inRuns]

end CleanupRules.Text
