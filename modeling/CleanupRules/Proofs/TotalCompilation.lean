import CleanupRules.RuleSet.Journal

/-!
Every text can be compiled as a rule. Its pattern is written as a regular expression whose groups are
nested at most twice however many labels the text has, so that an engine never refuses it and no rule
is replaced by one that never matches. What the matcher then accepts does not depend on the engine.
-/

namespace CleanupRules.Proofs.TotalCompilation

open Pattern (Branch WellFormed)

theorem depth_text (label : List Char) (rest : Branch) :
    (Branch.text label rest).depth = rest.depth := by
  induction label with
  | nil => rfl
  | cons c label ih => exact ih

theorem depth_gap_le (before after : Bool) {rest : Branch} (h : rest.depth ≤ 2) :
    (Segment.gap before after rest).depth ≤ 2 := by
  cases before <;> cases after <;>
    simp only [Segment.gap, Branch.depth, Pattern.depth] <;> omega

theorem depth_branchFrom_le (segments : List Segment) (before dot : Bool) {rest : Branch}
    (h : rest.depth ≤ 2) : (Segment.branchFrom before dot segments rest).depth ≤ 2 := by
  induction segments generalizing before dot with
  | nil => exact h
  | cons segment segments ih =>
      cases segment with
      | literal label =>
          have hliteral : (Branch.text label (Segment.branchFrom true true segments rest)).depth ≤ 2 := by
            rw [depth_text]
            exact ih true true
          cases dot with
          | false => exact hliteral
          | true => exact hliteral
      | wildcard => exact depth_gap_le _ _ (ih true false)

theorem depth_opening_le (opening : Opening) {rest : Branch} (h : rest.depth ≤ 2) :
    (opening.branch rest).depth ≤ 2 := by
  cases opening with
  | start => exact h
  | startOrDot => exact Nat.max_le.mpr ⟨Nat.le_refl 2, h⟩

theorem depth_closing_le (closing : Closing) {rest : Branch} (h : rest.depth ≤ 2) :
    (closing.branch rest).depth ≤ 2 := by
  cases closing with
  | finish => exact h
  | finishOrDot => exact Nat.max_le.mpr ⟨Nat.le_refl 2, h⟩

theorem depth_pattern_le (rule : Rule) : rule.pattern.depth ≤ 2 := by
  cases rule with
  | everything => decide
  | anchored opening segments closing =>
      rw [Rule.pattern, Pattern.depth, Segment.branch]
      apply depth_opening_le
      apply depth_branchFrom_le
      apply depth_closing_le
      exact Nat.zero_le 2

theorem wellFormed_ruleSource (rule : List Char) : WellFormed 2 (Rule.source rule) :=
  Pattern.wellFormed_source _ (depth_pattern_le _)

section Engines

variable {engine : Engine}

theorem ofSource?_eq_of_lawful (h : engine.Lawful) {pattern : Pattern} (hdepth : pattern.depth ≤ 2)
    (name : List Char) :
    engine.ofSource? name pattern.source = Matcher.ofSource? name pattern.source := by
  rw [Matcher.ofSource?_source, Engine.ofSource?,
    h.eq_occursIn (Pattern.wellFormed_source pattern hdepth)]
  rfl

theorem compile?_eq_of_lawful (h : engine.Lawful) : engine.compile? = Matcher.compile? := by
  funext rule
  exact ofSource?_eq_of_lawful h (depth_pattern_le (Rule.parse rule)) rule

/-- Rules are compiled alike with every engine that has what they rely on. -/
theorem compile_eq_of_lawful (h : engine.Lawful) : engine.compile = Matcher.compile := by
  funext rule
  rw [Engine.compile, compile?_eq_of_lawful h]
  rfl

end Engines

theorem compileRecorded_eq (diagnose : List Char → List Char) (rule : List Char) :
    RuleSet.compileRecorded diagnose rule = ⟨Matcher.compile rule, []⟩ := by
  rw [RuleSet.compileRecorded, Matcher.compile?_eq, Matcher.compile_eq]

theorem records_buildRecorded (diagnose : List Char → List Char) (specs : List RuleSpec)
    (fallback : Cleanup) :
    (RuleSet.buildRecorded diagnose specs fallback).records = [.built specs.length fallback] := by
  simp [RuleSet.buildRecorded, compileRecorded_eq]

/-- Compiling a rule succeeds, whatever is written in it. -/
theorem compile_total (diagnose : List Char → List Char) (rule : List Char) :
    WellFormed 2 (Rule.source rule) ∧
      ∃ matcher, Matcher.compile? rule = some matcher ∧
        RuleSet.compileRecorded diagnose rule = ⟨matcher, []⟩ ∧
        Matcher.compile rule = matcher ∧
        matcher.rule = rule ∧
        matcher.source = Rule.source rule ∧
        matcher.isCompiled = true := by
  refine ⟨wellFormed_ruleSource rule, Matcher.compile rule, ?_, compileRecorded_eq diagnose rule,
    rfl, ?_⟩
  · rw [Matcher.compile_eq]
    exact Matcher.compile?_eq rule
  · rw [Matcher.compile_eq]
    exact ⟨rfl, rfl, rfl⟩

end CleanupRules.Proofs.TotalCompilation
