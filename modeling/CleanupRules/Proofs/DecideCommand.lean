import CleanupRules.CommandLine.Run
import CleanupRules.Proofs.StrongestRule
import CleanupRules.Proofs.TidiedRules

/-!
What the command `decide` reports, said of the rules as they are given. Although it tidies them
first, the type and the rule that it names are those of the given list.
-/

namespace CleanupRules.Proofs.DecideCommand

open CommandLine
open StrongestRule
open TidiedRules

/-- The given rules that match a host, blanks around them aside. -/
def applying (specs : List RuleSpec) (host : Host) : List RuleSpec :=
  specs.filter fun spec =>
    Text.trim spec.rule ≠ [] &&
      (Matcher.compile (Text.trim spec.rule)).test (Host.normalize host)

/-- What is to be reported for an input if these rules and this fallback are given. -/
structure Reports (specs : List RuleSpec) (fallback : Cleanup) (input : List Char)
    (finding : Finding) : Prop where
  host_eq : finding.host = (Url.host? input).getD input
  matched_eq : finding.matched =
    ((applying specs finding.host).map RuleSpec.trimmed).toFinset.card
  of_none : applying specs finding.host = [] →
    finding.cleanup = fallback ∧ finding.rule = none
  of_some : applying specs finding.host ≠ [] →
    (∀ spec ∈ applying specs finding.host,
      spec.cleanup.protection ≤ finding.cleanup.protection) ∧
    ∃ first, (applying specs finding.host).find? (·.cleanup = finding.cleanup) = some first ∧
      finding.rule = some (Text.trim first.rule)

variable (specs : List RuleSpec) (fallback : Cleanup)

def tidiedSet : RuleSet :=
  RuleSet.build (RuleSpec.tidy specs) fallback

def compiled (spec : RuleSpec) : Entry :=
  ⟨Matcher.compile spec.rule, spec.cleanup⟩

theorem matchingEntries_tidiedSet (host : Host) :
    (tidiedSet specs fallback).matchingEntries host =
      (((applying specs host).map RuleSpec.trimmed).eraseDups).map compiled := by
  rw [matchingEntries_eq_filter, tidiedSet, RuleSet.build]
  have hfilter := filter_tidy
    (fun spec => (Matcher.compile spec.rule).test (Host.normalize host)) specs
  rw [applying]
  exact (List.filter_map ..).trans (congrArg (List.map compiled) hfilter)

theorem matchingEntries_tidiedSet_eq_nil_iff (host : Host) :
    (tidiedSet specs fallback).matchingEntries host = [] ↔ applying specs host = [] := by
  rw [matchingEntries_tidiedSet, List.map_eq_nil_iff, eraseDups_eq_nil_iff, List.map_eq_nil_iff]

theorem find?_matchingEntries_tidiedSet (host : Host) (cleanup : Cleanup) :
    ((tidiedSet specs fallback).matchingEntries host).find? (fun entry => entry.cleanup = cleanup) =
      ((applying specs host).find? (fun spec => spec.cleanup = cleanup)).map
        fun spec => compiled spec.trimmed := by
  rw [matchingEntries_tidiedSet, List.find?_map, find?_eraseDups, List.find?_map, Option.map_map]
  rfl

theorem rule_finding (set : RuleSet) (input : List Char) :
    (finding set input).rule =
      ((set.decide (Url.hostOf input)).ruleIndex.bind (set.entries[·]?)).map
        fun entry => entry.matcher.rule := by
  rw [finding]
  cases (set.decide (Url.hostOf input)).ruleIndex with
  | none => rfl
  | some index =>
      cases hentry : set.entries[index]? <;> simp [hentry]

theorem reports_finding (input : List Char) :
    Reports specs fallback input (finding (tidiedSet specs fallback) input) := by
  let set := tidiedSet specs fallback
  let host := Url.hostOf input
  have hnil := matchingEntries_tidiedSet_eq_nil_iff specs fallback host
  refine ⟨rfl, ?_, ?_, ?_⟩
  · change (set.decide host).matched = _
    rw [matched_decide, matchingEntries_tidiedSet, List.length_map, length_eraseDups]
    rfl
  · intro hnone
    have hdecide := decide_of_no_match set host (hnil.mpr hnone)
    rw [rule_finding]
    change (set.decide host).cleanup = fallback ∧
      ((set.decide host).ruleIndex.bind (set.entries[·]?)).map _ = none
    rw [hdecide]
    exact ⟨rfl, rfl⟩
  · intro hsome
    obtain ⟨entry, hget, hcleanup, hfind, hmax⟩ :=
      deciding_entry_eq_find set host (hnil.not.mpr hsome)
    rw [find?_matchingEntries_tidiedSet] at hfind
    obtain ⟨first, hfirst, rfl⟩ := Option.map_eq_some_iff.mp hfind
    rw [rule_finding]
    change (∀ spec ∈ applying specs host, spec.cleanup.protection ≤
        (set.decide host).cleanup.protection) ∧
      ∃ first, (applying specs host).find? (·.cleanup = (set.decide host).cleanup) = some first ∧
        ((set.decide host).ruleIndex.bind (set.entries[·]?)).map _ = some (Text.trim first.rule)
    rw [hcleanup, hget]
    refine ⟨?_, first, hfirst, ?_⟩
    · intro spec hspec
      apply hmax (compiled spec.trimmed)
      rw [matchingEntries_tidiedSet]
      exact List.mem_map_of_mem (List.mem_eraseDups.mpr (List.mem_map_of_mem hspec))
    · simp [compiled, Matcher.compile_eq, RuleSpec.trimmed]

/-- The command reports on every input in order, and the position of the rule that decides is one of
its rule set. -/
theorem decide_reports (times : Benchmark.Times) (options : DecideOptions) :
    ∃ found, (Command.decide options).lines times =
        .ok ((if options.verbose then ruleNotes options.rules else []) ++
          if options.json then [(Json.Document.array (found.map Finding.document)).render]
          else found.map Finding.line) ∧
      List.Forall₂ (Reports options.rules options.fallback) options.hosts found ∧
      ∀ host index,
        ((tidiedSet options.rules options.fallback).decide host).ruleIndex = some index →
        index < (tidiedSet options.rules options.fallback).entries.length := by
  refine ⟨findings options, rfl, ?_, ?_⟩
  · rw [findings, List.forall₂_map_right_iff, List.forall₂_same]
    intro input _
    exact reports_finding options.rules options.fallback input
  · intro host index hindex
    exact index_lt_of_decide _ host hindex

example :
    findings
        { rules := [⟨" a ".toList, .leave⟩, ⟨"a".toList, .leave⟩, ⟨"*".toList, .startup⟩]
          hosts := ["http://A/x".toList, ".".toList] } =
      [⟨"A".toList, .startup, some "*".toList, 2⟩, ⟨".".toList, .startup, some "*".toList, 1⟩] := by
  decide

end CleanupRules.Proofs.DecideCommand
