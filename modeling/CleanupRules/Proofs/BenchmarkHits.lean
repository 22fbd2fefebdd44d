import Mathlib.Algebra.Order.Group.Nat
import Mathlib.Data.List.ProdSigma
import Mathlib.Logic.Function.Iterate
import CleanupRules.CommandLine.Timed

/-!
The hits of a benchmark. Whatever clock is read, each pass adds the number of matching pairs to the
hits and nothing else, so that the hits of all iterations are shared among them without a rest.
-/

namespace CleanupRules.Proofs.BenchmarkHits

open Benchmark
open CommandLine

/-- The pairs of a rule and a candidate that match, as often as they are given. Without candidates
the common hosts are taken. -/
def matchingPairs (benchmark : Benchmark) : List (List Char × List Char) :=
  let candidates := if benchmark.candidates = [] then commonHosts else benchmark.candidates
  (benchmark.rules.product candidates).filter fun (rule, candidate) =>
    (Matcher.compile rule).test candidate

section Pass

theorem foldl_hits (accepts : List Char → Bool) (hosts : List (List Char)) (hits : Nat) :
    hosts.foldl (fun hits host => if accepts host then hits + 1 else hits) hits =
      hits + hosts.countP accepts := by
  induction hosts generalizing hits with
  | nil => rfl
  | cons host hosts ih =>
      rw [List.foldl_cons, ih, List.countP_cons]
      split
      · omega
      · rfl

theorem countHits_cons (matcher : Matcher) (matchers : List Matcher) (hosts : List (List Char))
    (hits : Nat) : countHits (matcher :: matchers) hosts hits =
      countHits matchers hosts (hits + hosts.countP matcher.test) := by
  rw [countHits, List.foldl_cons, foldl_hits, countHits]

theorem total_cons (count : Nat) (counts : List Nat) :
    total (count :: counts) = count + total counts :=
  rfl

theorem countHits_compile (benchmark : Benchmark) (hits : Nat) :
    countHits (benchmark.rules.map Matcher.compile) benchmark.hosts hits =
      hits + benchmark.hitsPerPass := by
  rw [hitsPerPass]
  induction benchmark.rules generalizing hits with
  | nil => rfl
  | cons rule rules ih =>
      rw [List.map_cons, countHits_cons, ih, List.map_cons, total_cons]
      omega

theorem hitsPerPass_eq (benchmark : Benchmark) :
    benchmark.hitsPerPass = (matchingPairs benchmark).length := by
  have hhosts : benchmark.hosts =
      if benchmark.candidates = [] then commonHosts else benchmark.candidates := by
    rw [hosts]
    cases benchmark.candidates <;> rfl
  rw [matchingPairs, ← hhosts, ← List.countP_eq_length_filter, List.product, List.countP_flatMap]
  simp only [Function.comp_def, List.countP_map]
  rfl

end Pass

theorem iterate_countHits (benchmark : Benchmark) (passes : Nat) :
    (countHits (benchmark.rules.map Matcher.compile) benchmark.hosts)^[passes] 0 =
      passes * (matchingPairs benchmark).length := by
  induction passes with
  | zero => simp
  | succ passes ih =>
      rw [Function.iterate_succ_apply', ih, countHits_compile, hitsPerPass_eq, Nat.succ_mul]

theorem reportedHits_eq {benchmark : Benchmark} (h : benchmark.iterations ≠ 0) :
    benchmark.reportedHits = (matchingPairs benchmark).length := by
  rw [reportedHits, hitsAfter_eq, hitsPerPass_eq,
    Nat.mul_div_cancel_left _ (Nat.pos_of_ne_zero h)]

section Clock

variable {m : Type → Type} [Monad m] [LawfulMonad m] (watch : Stopwatch m)

theorem exists_times_timed {σ : Type} (pass : σ → σ) (passes : Nat) (state : σ)
    (times : Array Nat) : ∃ laps : m (Array Nat),
      watch.timed pass passes state times = (fun laps => (pass^[passes] state, laps)) <$> laps := by
  induction passes generalizing state times with
  | zero => exact ⟨pure times, (map_pure _ _).symm⟩
  | succ passes ih =>
      choose laps hlaps using fun times => ih (pass state) times
      refine ⟨do
        let start ← watch.read
        let stop ← watch.read
        laps (times.push (stop - start)), ?_⟩
      simp only [Stopwatch.timed, watch.work_eq, pure_bind, hlaps, map_bind,
        Function.iterate_succ_apply]

theorem exists_times_measure_pass {σ : Type} (pass : σ → σ) (passes : Nat) (state : σ) :
    ∃ times : m (Array Nat),
      watch.measure pass passes state = (fun times => (pass^[passes] state, times)) <$> times := by
  obtain ⟨laps, hlaps⟩ := exists_times_timed watch pass passes state #[]
  refine ⟨(fun laps => laps.qsort (· < ·)) <$> laps, ?_⟩
  rw [Stopwatch.measure, hlaps, bind_map_left, Functor.map_map]
  exact bind_pure_comp _ _

theorem exists_times_measure (benchmark : Benchmark) : ∃ times : m Times,
    benchmark.measure watch =
      (fun times => ⟨times, benchmark.iterations * (matchingPairs benchmark).length⟩) <$> times := by
  obtain ⟨source, hsource⟩ := exists_times_measure_pass watch
    (fun _ => benchmark.rules.map Rule.source) benchmark.iterations []
  obtain ⟨compile, hcompile⟩ := exists_times_measure_pass watch
    (fun _ => benchmark.rules.map Matcher.compile) benchmark.iterations []
  obtain ⟨test, htest⟩ := exists_times_measure_pass watch
    (countHits (benchmark.rules.map Matcher.compile) benchmark.hosts) benchmark.iterations 0
  rw [iterate_countHits] at htest
  refine ⟨do
    let source ← source
    let compile ← compile
    let test ← test
    pure ⟨source, compile, test⟩, ?_⟩
  simp only [Benchmark.measure, hsource, hcompile, htest, bind_map_left, map_bind, map_pure]

theorem exists_times_perform_bench {benchmark : Benchmark} (h : benchmark.iterations ≠ 0) :
    ∃ times : m Times,
      benchmark.measure watch =
        (fun times => ⟨times, benchmark.iterations * (matchingPairs benchmark).length⟩) <$> times ∧
      (Command.bench benchmark).perform watch =
        (fun times => .ok (benchmark.report times (matchingPairs benchmark).length)) <$> times := by
  obtain ⟨times, htimes⟩ := exists_times_measure watch benchmark
  refine ⟨times, htimes, ?_⟩
  simp only [Command.perform, if_neg h, htimes, bind_map_left,
    Nat.mul_div_cancel_left _ (Nat.pos_of_ne_zero h)]
  exact bind_pure_comp _ _

theorem exists_times_perform_command (command : Command) : ∃ times : m Times,
    command.perform watch = (fun times => command.lines times) <$> times := by
  cases command with
  | bench benchmark =>
      by_cases h : benchmark.iterations = 0
      · exact ⟨pure {}, by simp [Command.perform, Command.lines, benchLines, h]⟩
      · obtain ⟨times, -, htimes⟩ := exists_times_perform_bench watch h
        refine ⟨times, htimes.trans ?_⟩
        simp only [Command.lines, benchLines, if_neg h, reportedHits_eq h]
  | _ => exact ⟨pure {}, by simp [Command.perform, Command.lines]⟩

theorem exists_times_perform (arguments : List (List Char)) : ∃ times : m Times,
    perform watch arguments = (fun times => run times arguments) <$> times := by
  rw [perform]
  cases hparse : Command.parse arguments with
  | error error => exact ⟨pure {}, by simp [run, hparse]⟩
  | ok command =>
      obtain ⟨times, htimes⟩ := exists_times_perform_command watch command
      refine ⟨times, ?_⟩
      simp only [htimes, run, hparse, bind_map_left]
      exact bind_pure_comp _ _

/-- Without iterations a benchmark fails before the clock is read. With some, the hits of all
iterations are shared among them without a rest, and by every clock the last line that is printed
gives the number of matching pairs. -/
theorem bench_prints_matching_pairs (benchmark : Benchmark) :
    (benchmark.iterations = 0 →
      (Command.bench benchmark).perform watch = pure (.error .noIterations)) ∧
    (benchmark.iterations ≠ 0 → ∃ (times : m Times) (total : Nat),
      benchmark.measure watch = (fun times => ⟨times, total⟩) <$> times ∧
        total % benchmark.iterations = 0 ∧
        total / benchmark.iterations = (matchingPairs benchmark).length ∧
        (Command.bench benchmark).perform watch =
          (fun times => .ok (benchmark.report times (matchingPairs benchmark).length)) <$> times) ∧
    ∀ times hits,
      (benchmark.report times hits).getLast? = some s!"Match hits: {hits}".toList := by
  refine ⟨fun h => by simp only [Command.perform, if_pos h], fun h => ?_, fun times hits => ?_⟩
  · obtain ⟨times, hmeasure, hperform⟩ := exists_times_perform_bench watch h
    exact ⟨times, _, hmeasure, Nat.mul_mod_right _ _,
      Nat.mul_div_cancel_left _ (Nat.pos_of_ne_zero h), hperform⟩
  · rfl

end Clock

/-- A clock that goes on by one with every reading. -/
def steady : Stopwatch (StateM Nat) where
  read := fun now => (now, now + 1)
  work := fun task => pure (task ())
  work_eq := fun _ => rfl

theorem bench_prints_matching_pairs_repeated :
    let benchmark : Benchmark :=
      { rules := ["*.com".toList, "*.com".toList, "example.com".toList], iterations := 3 }
    benchmark.iterations ≠ 0 ∧ ∃ times : StateM Nat Times,
      benchmark.measure steady = (fun times => ⟨times, 15⟩) <$> times ∧
      (Command.bench benchmark).perform steady =
        (fun times => .ok (benchmark.report times 5)) <$> times := by
  intro benchmark
  have hpairs : (matchingPairs benchmark).length = 5 := by decide +kernel
  obtain ⟨-, hbench, -⟩ := bench_prints_matching_pairs steady benchmark
  obtain ⟨times, total, hmeasure, hrest, hshare, hperform⟩ := hbench (by decide)
  rw [hpairs] at hshare hperform
  have htotal : total = 15 := by
    have := Nat.div_add_mod total benchmark.iterations
    rw [hrest, hshare] at this
    exact this.symm
  rw [htotal] at hmeasure
  exact ⟨by decide, times, hmeasure, hperform⟩

end CleanupRules.Proofs.BenchmarkHits
