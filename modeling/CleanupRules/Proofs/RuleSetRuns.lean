import Mathlib.Logic.Basic
import CleanupRules.Proofs.StrongestRule

/-!
Rule sets in use. Whatever is done to a rule set, it holds the entries that were pushed, in their
order, and the fallback that was set last; its decisions are said of these.
-/

namespace CleanupRules.Proofs.RuleSetRuns

open StrongestRule

inductive Start
  | new
  | withFallback (fallback : Cleanup)

def Start.set : Start → RuleSet
  | .new => RuleSet.empty
  | .withFallback fallback => RuleSet.withFallback fallback

def Start.fallback : Start → Cleanup
  | .new => .leave
  | .withFallback fallback => fallback

inductive Operation
  | push (matcher : Matcher) (cleanup : Cleanup)
  | setFallback (fallback : Cleanup)
  /-- Any question about a host; the set answers and stays as it is. -/
  | query (host : Host)

namespace Operation

def apply (set : RuleSet) : Operation → RuleSet
  | .push matcher cleanup => set.push matcher cleanup
  | .setFallback fallback => set.setFallback fallback
  | .query _ => set

def entry? : Operation → Option Entry
  | .push matcher cleanup => some ⟨matcher, cleanup⟩
  | .setFallback _ => none
  | .query _ => none

def fallback? : Operation → Option Cleanup
  | .push _ _ => none
  | .setFallback fallback => some fallback
  | .query _ => none

end Operation

def run (start : Start) (operations : List Operation) : RuleSet :=
  operations.foldl Operation.apply start.set

def pushed (operations : List Operation) : List Entry :=
  operations.filterMap Operation.entry?

def latestFallback (start : Start) (operations : List Operation) : Cleanup :=
  (operations.filterMap Operation.fallback?).getLast?.getD start.fallback

theorem entries_apply (set : RuleSet) (operation : Operation) :
    (operation.apply set).entries = set.entries ++ operation.entry?.toList := by
  cases operation <;> simp [Operation.apply, Operation.entry?]

theorem fallback_apply (set : RuleSet) (operation : Operation) :
    (operation.apply set).fallback = operation.fallback?.getD set.fallback := by
  cases operation <;> simp [Operation.apply, Operation.fallback?, RuleSet.setFallback]

theorem entries_run (start : Start) (operations : List Operation) :
    (run start operations).entries = pushed operations := by
  have hfold : ∀ set : RuleSet, (operations.foldl Operation.apply set).entries =
      set.entries ++ pushed operations := by
    induction operations with
    | nil => simp [pushed]
    | cons operation operations ih =>
        intro set
        rw [List.foldl_cons, ih, entries_apply]
        cases hentry : operation.entry? <;> simp [pushed, hentry]
  rw [run, hfold]
  cases start <;> rfl

theorem fallback_run (start : Start) (operations : List Operation) :
    (run start operations).fallback = latestFallback start operations := by
  have hfold : ∀ set : RuleSet, (operations.foldl Operation.apply set).fallback =
      (operations.filterMap Operation.fallback?).getLast?.getD set.fallback := by
    induction operations with
    | nil => simp
    | cons operation operations ih =>
        intro set
        rw [List.foldl_cons, ih, fallback_apply, List.filterMap_cons]
        cases operation.fallback? with
        | none => rfl
        | some fallback =>
            rw [List.getLast?_cons]
            cases (operations.filterMap Operation.fallback?).getLast? <;> rfl
  rw [run, hfold, latestFallback]
  cases start <;> rfl

/-- The positions of the entries that accept the normal spelling of a host. -/
def positions (entries : List Entry) (host : Host) : List Nat :=
  (List.range entries.length).filter fun position =>
    entries[position]?.any fun entry => entry.matcher.test (Host.normalize host)

/-- What a decision says if these entries and this fallback are in force. -/
structure Decides (entries : List Entry) (fallback : Cleanup) (host : Host)
    (decision : Decision) : Prop where
  matched_eq : decision.matched = (positions entries host).length
  of_none : positions entries host = [] →
    decision.ruleIndex = none ∧ decision.cleanup = fallback
  of_some : positions entries host ≠ [] →
    ∃ position ∈ positions entries host, ∃ entry, entries[position]? = some entry ∧
      decision.ruleIndex = some position ∧ decision.cleanup = entry.cleanup ∧
      ∀ other ∈ positions entries host, ∀ rival, entries[other]? = some rival →
        rival.cleanup.protection ≤ entry.cleanup.protection ∧
          (other < position → rival.cleanup.protection < entry.cleanup.protection)

theorem map_snd_accepting (set : RuleSet) (host : Host) :
    (set.accepting host).map Prod.snd = positions set.entries host := by
  rw [positions, List.range_eq_range', ← List.zipIdx_map_snd, List.filter_map, RuleSet.accepting]
  congr 1
  apply List.filter_congr
  rintro ⟨entry, index⟩ hmem
  simp [List.mk_mem_zipIdx_iff_getElem?.mp hmem]

theorem mem_accepting_iff {set : RuleSet} {host : Host} {entry : Entry} {index : Nat}
    (hget : set.entries[index]? = some entry) :
    (entry, index) ∈ set.accepting host ↔ index ∈ positions set.entries host := by
  rw [← map_snd_accepting]
  constructor
  · intro h
    exact List.mem_map.mpr ⟨_, h, rfl⟩
  · intro h
    obtain ⟨⟨other, _⟩, hmem, rfl⟩ := List.mem_map.mp h
    have hother := getElem?_of_mem_accepting set host hmem
    rw [hget] at hother
    rw [Option.some.inj hother]
    exact hmem

theorem map_some_matchingEntries (set : RuleSet) (host : Host) :
    (set.matchingEntries host).map some = (positions set.entries host).map (set.entries[·]?) := by
  rw [← map_snd_accepting, RuleSet.matchingEntries, List.map_map, List.map_map]
  apply List.map_congr_left
  rintro ⟨entry, index⟩ hmem
  exact (getElem?_of_mem_accepting set host hmem).symm

theorem pairwise_positions (entries : List Entry) (host : Host) :
    (positions entries host).Pairwise (· < ·) :=
  List.pairwise_lt_range.filter _

theorem decides_decide (set : RuleSet) (host : Host) :
    Decides set.entries set.fallback host (set.decide host) := by
  have hmatching : set.matchingEntries host = [] ↔ positions set.entries host = [] := by
    rw [← map_snd_accepting, RuleSet.matchingEntries, List.map_eq_nil_iff, List.map_eq_nil_iff]
  refine ⟨?_, ?_, ?_⟩
  · rw [matched_decide, ← map_snd_accepting, RuleSet.matchingEntries, List.length_map,
      List.length_map]
  · intro hnone
    rw [decide_of_no_match set host (hmatching.mpr hnone)]
    exact ⟨rfl, rfl⟩
  · intro hsome
    obtain ⟨entry, position, ⟨before, after, heq, hbefore, hafter⟩, hget, hindex, hcleanup⟩ :=
      exists_deciding_entry set host (hmatching.not.mpr hsome)
    have hmem : (entry, position) ∈ set.accepting host := by simp [heq]
    refine ⟨position, (mem_accepting_iff hget).mp hmem, entry, hget, hindex, hcleanup, ?_⟩
    intro other hother rival hrival
    have hpair := (mem_accepting_iff hrival).mpr hother
    rw [heq] at hpair
    rcases List.mem_append.mp hpair with hpair | hpair
    · have hlt := hbefore _ hpair
      exact ⟨Nat.le_of_lt hlt, fun _ => hlt⟩
    rcases List.mem_cons.mp hpair with hsame | hpair
    · obtain ⟨rfl, rfl⟩ := Prod.mk.inj hsame
      exact ⟨Nat.le_refl _, fun hlt => absurd hlt (Nat.lt_irrefl _)⟩
    · refine ⟨hafter _ hpair, fun hlt => ?_⟩
      have hsorted := pairwise_positions set.entries host
      rw [← map_snd_accepting, heq, List.map_append, List.map_cons] at hsorted
      have hcons := (List.pairwise_cons.mp (List.pairwise_append.mp hsorted).2.1).1
      have hgt := hcons other (List.mem_map.mpr ⟨_, hpair, rfl⟩)
      exact absurd hgt (Nat.lt_asymm hlt)

/-- At every moment of a run the decision is that of the first most protective one among the
entries pushed so far that match, and their order does not matter to the type and the count. -/
theorem decides_run (start : Start) (operations : List Operation) (moment : Nat) (host : Host) :
    let done := operations.take moment
    Decides (pushed done) (latestFallback start done) host ((run start done).decide host) ∧
      ((run start done).matchingEntries host).map some =
        (positions (pushed done) host).map ((pushed done)[·]?) ∧
      ∀ (other : Start) (reordered : List Operation),
        (pushed reordered).Perm (pushed done) →
        latestFallback other reordered = latestFallback start done →
        ((run other reordered).decide host).cleanup = ((run start done).decide host).cleanup ∧
          ((run other reordered).decide host).matched = ((run start done).decide host).matched := by
  intro done
  rw [← entries_run start done, ← fallback_run start done]
  refine ⟨decides_decide _ host, map_some_matchingEntries _ host, ?_⟩
  intro other reordered hpushed hfallback
  rw [← entries_run other] at hpushed
  rw [← fallback_run other] at hfallback
  exact decide_of_perm host hpushed hfallback

end CleanupRules.Proofs.RuleSetRuns
