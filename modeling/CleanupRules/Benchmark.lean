import CleanupRules.Matcher
import CleanupRules.Percentile
import CleanupRules.Text.Column

/-!
A benchmark of rules: how long writing patterns, compiling and matching take, and how many of the
candidates match. The times are measured outside and given in nanoseconds.
-/

namespace CleanupRules

structure Benchmark where
  rules : List (List Char)
  /-- What to match; common hosts if there are none. -/
  candidates : List (List Char) := []
  iterations : Nat := 10000

namespace Benchmark

def commonHosts : List (List Char) :=
  ["example.com".toList, "www.google.com".toList, "cdn.ads.example.net".toList,
   "a.very.long.subdomain.chain.of.labels.example.co.uk".toList]

def hosts (benchmark : Benchmark) : List (List Char) :=
  if benchmark.candidates.isEmpty then commonHosts else benchmark.candidates

def total (counts : List Nat) : Nat :=
  counts.foldr (· + ·) 0

/-- How many pairs of a rule and a candidate match, in one pass over all of them. -/
def hitsPerPass (benchmark : Benchmark) : Nat :=
  total (benchmark.rules.map fun rule => benchmark.hosts.countP (Matcher.compile rule).test)

/-- One pass of matching: each matcher is tried on each candidate, and every match is one hit more. -/
def countHits (matchers : List Matcher) (hosts : List (List Char)) (hits : Nat) : Nat :=
  matchers.foldl
    (fun hits matcher => hosts.foldl
      (fun hits host => if matcher.test host then hits + 1 else hits) hits) hits

/-- How many pairs match in a number of passes. -/
def hitsAfter (hits passes : Nat) : Nat :=
  Nat.repeat (· + hits) passes 0

/-- The hits that are reported: those of all iterations, shared among them. -/
def reportedHits (benchmark : Benchmark) : Nat :=
  hitsAfter benchmark.hitsPerPass benchmark.iterations / benchmark.iterations

/-- The times of the iterations in nanoseconds, sorted, for each thing that is measured. -/
structure Times where
  source : Array Nat := #[]
  compile : Array Nat := #[]
  test : Array Nat := #[]

/-- Nanoseconds as microseconds with three places. -/
def microseconds (nanoseconds : Nat) : List Char :=
  Nat.toDigits 10 (nanoseconds / 1000) ++ '.' ::
    (List.replicate (3 - (Nat.toDigits 10 (nanoseconds % 1000)).length) '0' ++
      Nat.toDigits 10 (nanoseconds % 1000))

/-- A line with the median and the 99th percentile of sorted times, and the median for each of the
operations of an iteration. -/
def timeLine (name : List Char) (times : Array Nat) (operations : Nat) : List Char :=
  let median := percentile 0 times 0.50
  let shared := max operations 1
  let each := (2 * median + shared) / (2 * shared)
  Text.pad .left 16 name ++ " p50 ".toList ++ Text.pad .right 8 (microseconds median) ++
    " μs  p99 ".toList ++ Text.pad .right 8 (microseconds (percentile 0 times 0.99)) ++
    " μs  (".toList ++ microseconds each ++ " μs/op)".toList

/-- What is printed, where `hits` are the hits of one iteration. -/
def report (benchmark : Benchmark) (times : Times) (hits : Nat) : List (List Char) :=
  let rules := benchmark.rules.length
  let hosts := benchmark.hosts.length
  ["Rule Benchmark".toList,
   List.replicate 50 '=',
   s!"Rules:       {rules}".toList,
   s!"Candidates:  {hosts}".toList,
   s!"Iterations:  {benchmark.iterations}".toList,
   [],
   timeLine "Pattern source".toList times.source rules,
   timeLine "Compile".toList times.compile rules,
   timeLine "Match".toList times.test (rules * hosts),
   [],
   s!"Match hits: {hits}".toList]

theorem hitsAfter_eq (hits passes : Nat) : hitsAfter hits passes = passes * hits := by
  induction passes with
  | zero => simp [hitsAfter, Nat.repeat]
  | succ passes ih => rw [hitsAfter, Nat.repeat, ← hitsAfter, ih, Nat.succ_mul]

end Benchmark

end CleanupRules
