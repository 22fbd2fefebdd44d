import CleanupRules.Proofs.CompiledRules
import CleanupRules.Proofs.StrongestRule
import CleanupRules.Rule.Lint

/-!
Rules that apply to no host at all. Hosts are tested in their normal spelling, which has small
letters for the capital ones of ASCII; so the rules that never apply are those with such a letter.
Every one of them is called uppercase, but so are rules that apply, as capital letters beyond ASCII
stay in the normal spelling.
-/

namespace CleanupRules.Proofs.CapitalRules

open CompiledRules
open Segment (Covers)
open StrongestRule

/-- Whatever the rule set and the host, the compiled rule is not among those that match the host and
is not the one that decides. -/
def AppliesNowhere (rule : List Char) : Prop :=
  ∀ (set : RuleSet) (host : Host),
    (∀ entry ∈ set.matchingEntries host, entry.matcher ≠ Matcher.compile rule) ∧
      ∀ index entry, (set.decide host).ruleIndex = some index → set.entries[index]? = some entry →
        entry.matcher ≠ Matcher.compile rule

theorem mem_matchingEntries_of_decide {set : RuleSet} {host : Host} {index : Nat} {entry : Entry}
    (hindex : (set.decide host).ruleIndex = some index) (hget : set.entries[index]? = some entry) :
    entry ∈ set.matchingEntries host := by
  by_cases hnil : set.matchingEntries host = []
  · rw [decide_of_no_match set host hnil] at hindex
    contradiction
  · obtain ⟨best, position, ⟨before, after, heq, -, -⟩, hbest, hposition, -⟩ :=
      exists_deciding_entry set host hnil
    obtain rfl : position = index := Option.some.inj (hposition.symm.trans hindex)
    obtain rfl : best = entry := Option.some.inj (hbest.symm.trans hget)
    rw [RuleSet.matchingEntries, heq]
    simp

theorem appliesNowhere_iff_no_test {rule : List Char} :
    AppliesNowhere rule ↔ ∀ host, (Matcher.compile rule).test (Host.normalize host) = false := by
  constructor
  · intro h host
    let entry : Entry := ⟨Matcher.compile rule, .never⟩
    rw [Bool.eq_false_iff]
    intro htest
    refine (h { entries := [entry] } host).1 entry ?_ rfl
    rw [matchingEntries_eq_filter]
    exact List.mem_filter.mpr ⟨List.mem_singleton_self entry, htest⟩
  · intro h set host
    have hmatching : ∀ entry ∈ set.matchingEntries host, entry.matcher ≠ Matcher.compile rule := by
      intro entry hentry heq
      rw [matchingEntries_eq_filter] at hentry
      have htest := (List.mem_filter.mp hentry).2
      rw [heq, h host] at htest
      contradiction
    refine ⟨hmatching, ?_⟩
    intro index entry hindex hget
    exact hmatching entry (mem_matchingEntries_of_decide hindex hget)

theorem mem_of_test {rule candidate : List Char} {c : Char}
    (htest : (Matcher.compile rule).test candidate = true) (hmem : c ∈ rule) (hdot : c ≠ '.')
    (hstar : c ≠ '*') : c ∈ candidate := by
  have hdouble : rule ≠ ['*', '.', '*'] := by
    rintro rfl
    simp [hdot, hstar] at hmem
  obtain ⟨label, hlabel, hc⟩ := Label.exists_mem_split_iff.mpr ⟨hmem, hdot⟩
  have hne : label ≠ Label.wildcard := by
    rintro rfl
    exact hstar (List.mem_singleton.mp hc)
  have hcandidate := mem_split_of_test hdouble htest hlabel hne
  exact (Label.exists_mem_split_iff.mp ⟨label, hcandidate, hc⟩).1

theorem covers_self (labels : List Label) : Covers (labels.map Segment.ofLabel) labels := by
  induction labels with
  | nil => exact .nil
  | cons label labels ih =>
      rw [List.map_cons, Segment.ofLabel]
      split
      · exact .take (.leave ih)
      · exact .literal ih

theorem exists_test (rule : List Char) :
    ∃ candidate, (∀ c ∈ candidate, c ∈ rule) ∧ (Matcher.compile rule).test candidate = true := by
  by_cases hdouble : rule = ['*', '.', '*']
  · subst hdouble
    exact ⟨[], by simp, by decide⟩
  · refine ⟨rule, fun c hc => hc, ?_⟩
    rw [test_compile_iff_covers, ruleLabels_parse hdouble]
    exact covers_self _

theorem appliesNowhere_iff {rule : List Char} :
    AppliesNowhere rule ↔ ∃ c ∈ rule, c.isUpper = true := by
  rw [appliesNowhere_iff_no_test]
  constructor
  · intro hnone
    by_contra hsmall
    simp only [not_exists, not_and, Bool.not_eq_true] at hsmall
    obtain ⟨candidate, hcandidate, htest⟩ := exists_test rule
    have hnormal := Host.normalize_between_dots fun c hc => hsmall c (hcandidate c hc)
    rw [← hnormal, hnone] at htest
    contradiction
  · rintro ⟨c, hc, hcapital⟩ host
    rw [Bool.eq_false_iff]
    intro htest
    have hhost : c ∈ Host.normalize host := by
      apply mem_of_test htest hc
      · rintro rfl
        contradiction
      · rintro rfl
        contradiction
    rw [Text.isUpper_of_mem_lower hhost] at hcapital
    contradiction

theorem uppercase_mem_lint_of_mem {rule : List Char} {c : Char} (hc : c ∈ rule)
    (hcapital : c.isUpper = true) : Issue.uppercase ∈ Rule.lint rule := by
  have hdouble : rule ≠ ['*', '.', '*'] := by
    rintro rfl
    simp only [List.mem_cons, List.not_mem_nil, or_false] at hc
    rcases hc with rfl | rfl | rfl <;> contradiction
  have hany : rule.any Text.isCapital = true :=
    List.any_eq_true.mpr ⟨c, hc, Text.isCapital_of_isUpper hcapital⟩
  rw [Rule.lint, if_neg (List.ne_nil_of_mem hc), if_neg hdouble, if_pos hany]
  simp

/-- Of the rules that are called uppercase exactly those with a capital letter of ASCII apply
nowhere. -/
theorem uppercase_and_appliesNowhere_iff (rule : List Char) :
    Issue.uppercase ∈ Rule.lint rule ∧ AppliesNowhere rule ↔ ∃ c ∈ rule, c.isUpper = true := by
  rw [appliesNowhere_iff, and_iff_right_iff_imp]
  rintro ⟨c, hc, hcapital⟩
  exact uppercase_mem_lint_of_mem hc hcapital

/-- A capital letter beyond ASCII is as good as any other letter: the rule decides. -/
theorem uppercase_rule_decides :
    Issue.uppercase ∈ Rule.lint ['É'] ∧
      (RuleSet.build [⟨['É'], .never⟩] .leave).decide ['É'] = ⟨.never, some 0, 1⟩ ∧
      ¬ AppliesNowhere ['É'] := by
  refine ⟨by decide, by decide, ?_⟩
  intro h
  let set := RuleSet.build [⟨['É'], .never⟩] .leave
  have hindex : (set.decide ['É']).ruleIndex = some 0 := by decide
  exact (h set ['É']).2 0 _ hindex rfl rfl

end CleanupRules.Proofs.CapitalRules
