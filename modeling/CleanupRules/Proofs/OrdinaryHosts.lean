import CleanupRules.Host.Basic
import CleanupRules.Proofs.CompiledRules
import CleanupRules.Rule.Lint

/-!
Rules that match no ordinary host. An issue of a rule other than a repeated wildcard is exactly what
keeps ordinary hosts from matching it.
-/

namespace CleanupRules.Proofs.OrdinaryHosts

open CompiledRules
open LabelGlob
open RuleMeaning
open Segment (Covers covers_of_covers_nil)

/-- A label as hosts have it in use: not empty, and without blanks, capital letters and stars. -/
def OrdinaryLabel (label : Label) : Prop :=
  label ≠ [] ∧ ∀ c ∈ label, Text.isBlank c = false ∧ Text.isCapital c = false ∧ c ≠ '*'

def Ordinary (host : Host) : Prop :=
  ∀ label ∈ Label.split host, OrdinaryLabel label

theorem exists_issue_labelIssue_iff {index : Nat} {repeats : Bool} {label : Label} :
    (∃ issue ∈ Rule.labelIssue index repeats label, issue.kind ≠ .redundantWildcard) ↔
      label = [] ∨ label ≠ Label.wildcard ∧ '*' ∈ label := by
  rw [Rule.labelIssue]
  split
  · rename_i hempty
    simp [hempty, Issue.kind]
  · rename_i hne
    split
    · rename_i hwildcard
      have hkind : ∀ issue ∈ (if repeats then [Issue.redundantWildcard index] else []),
          issue.kind = .redundantWildcard := by
        cases repeats <;> simp [Issue.kind]
      constructor
      · rintro ⟨issue, hmem, hissue⟩
        exact absurd (hkind issue hmem) hissue
      · rintro (hempty | ⟨hlabel, -⟩)
        · exact absurd hempty hne
        · exact absurd hwildcard hlabel
    · rename_i hlabel
      split
      · rename_i hstar
        simp [hlabel, hstar, Issue.kind]
      · rename_i hstar
        simp [hne, hstar]

theorem exists_issue_labelIssues_iff {index : Nat} {repeats : Bool} {labels : List Label} :
    (∃ issue ∈ Rule.labelIssues index repeats labels, issue.kind ≠ .redundantWildcard) ↔
      ∃ label ∈ labels, label = [] ∨ label ≠ Label.wildcard ∧ '*' ∈ label := by
  induction labels generalizing index repeats with
  | nil => simp [Rule.labelIssues]
  | cons label labels ih =>
      simp only [Rule.labelIssues, List.mem_append, or_and_right, exists_or,
        exists_issue_labelIssue_iff, ih, List.mem_cons, exists_eq_left]

theorem exists_issue_flag_iff {rule : List Char} {property : Char → Bool} {issue : Issue}
    (hdot : property '.' = false) (hkind : issue.kind ≠ .redundantWildcard) :
    (∃ found ∈ (if rule.any property then [issue] else []), found.kind ≠ .redundantWildcard) ↔
      ∃ label ∈ Label.split rule, ∃ c ∈ label, property c = true := by
  have hflag : (∃ found ∈ (if rule.any property then [issue] else []),
      found.kind ≠ .redundantWildcard) ↔ ∃ c ∈ rule, property c = true := by
    rw [← List.any_eq_true]
    split <;> simp_all
  rw [hflag]
  constructor
  · rintro ⟨c, hc, hproperty⟩
    have hne : c ≠ '.' := by
      rintro rfl
      simp [hdot] at hproperty
    obtain ⟨label, hlabel, hmem⟩ := Label.exists_mem_split_iff.mpr ⟨hc, hne⟩
    exact ⟨label, hlabel, c, hmem, hproperty⟩
  · rintro ⟨label, hlabel, c, hmem, hproperty⟩
    exact ⟨c, (Label.exists_mem_split_iff.mp ⟨label, hlabel, hmem⟩).1, hproperty⟩

theorem not_ordinaryLabel_iff {label : Label} :
    label ≠ Label.wildcard ∧ ¬ OrdinaryLabel label ↔
      ((∃ c ∈ label, Text.isBlank c = true) ∨ ∃ c ∈ label, Text.isCapital c = true) ∨
        label = [] ∨ label ≠ Label.wildcard ∧ '*' ∈ label := by
  constructor
  · rintro ⟨hne, hordinary⟩
    by_contra hnone
    simp only [not_or, not_exists, not_and, Bool.not_eq_true] at hnone
    obtain ⟨⟨hblank, hcapital⟩, hempty, hstar⟩ := hnone
    refine hordinary ⟨hempty, fun c hc => ⟨hblank c hc, hcapital c hc, ?_⟩⟩
    rintro rfl
    exact hstar hne hc
  · have hproperty : ∀ property : Char → Bool, property '*' = false →
        (∃ c ∈ label, property c = true) → label ≠ Label.wildcard := by
      rintro property hstar ⟨c, hc, h⟩ rfl
      rw [List.mem_singleton.mp hc, hstar] at h
      contradiction
    rintro ((hblank | hcapital) | hempty | ⟨hne, hstar⟩)
    · refine ⟨hproperty _ (by decide) hblank, fun h => ?_⟩
      obtain ⟨c, hc, hblank⟩ := hblank
      simp [(h.2 c hc).1] at hblank
    · refine ⟨hproperty _ (by decide) hcapital, fun h => ?_⟩
      obtain ⟨c, hc, hcapital⟩ := hcapital
      simp [(h.2 c hc).2.1] at hcapital
    · subst hempty
      exact ⟨by decide, fun h => h.1 rfl⟩
    · exact ⟨hne, fun h => (h.2 '*' hstar).2.2 rfl⟩

theorem exists_issue_lint_iff {rule : List Char} :
    (∃ issue ∈ Rule.lint rule, issue.kind ≠ .redundantWildcard) ↔
      rule = ['*', '.', '*'] ∨
        ∃ label ∈ Label.split rule, label ≠ Label.wildcard ∧ ¬ OrdinaryLabel label := by
  have hblank := @exists_issue_flag_iff rule Text.isBlank .whitespace (by decide) (by decide)
  have hcapital := @exists_issue_flag_iff rule Text.isCapital .uppercase (by decide) (by decide)
  rw [Rule.lint]
  split
  · rename_i hempty
    subst hempty
    simp [Label.split, Issue.kind, OrdinaryLabel, Label.wildcard]
  split
  · rename_i hdouble
    simp [hdouble, Issue.kind]
  · rename_i hdouble
    simp only [List.mem_append, or_and_right, exists_or, hblank, hcapital,
      exists_issue_labelIssues_iff, hdouble, false_or, not_ordinaryLabel_iff, and_or_left]

theorem covers_filter_ne_wildcard (labels : List Label) :
    Covers (labels.map Segment.ofLabel) (labels.filter (· ≠ Label.wildcard)) := by
  induction labels with
  | nil => exact .nil
  | cons label labels ih =>
      by_cases hlabel : label = Label.wildcard
      · simpa [hlabel, Segment.ofLabel] using Covers.leave ih
      · simpa [hlabel, Segment.ofLabel] using Covers.literal ih

/-- The literal labels of a rule, or some label where there are none: an ordinary host that the
rule accepts if there is any. -/
def sampleLabels (rule : List Char) : List Label :=
  match (Label.split rule).filter (· ≠ Label.wildcard) with
  | [] => [['a']]
  | labels => labels

theorem sampleLabels_ne_nil (rule : List Char) : sampleLabels rule ≠ [] := by
  rw [sampleLabels]
  split
  · simp
  · rename_i hne
    exact hne

theorem mem_sampleLabels {rule : List Char} {label : Label} (h : label ∈ sampleLabels rule) :
    label = ['a'] ∨ label ∈ Label.split rule ∧ label ≠ Label.wildcard := by
  rw [sampleLabels] at h
  split at h
  · exact Or.inl (List.mem_singleton.mp h)
  · exact Or.inr (by simpa using h)

theorem covers_sampleLabels (rule : List Char) :
    Covers ((Label.split rule).map Segment.ofLabel) (sampleLabels rule) := by
  have h := covers_filter_ne_wildcard (Label.split rule)
  rw [sampleLabels]
  split
  · rename_i hnil
    rw [hnil] at h
    exact covers_of_covers_nil (by simp [Label.split_ne_nil]) h _
  · exact h

theorem exists_ordinary_iff {rule : List Char} :
    (∃ host, Ordinary host ∧ (Matcher.compile rule).test host = true) ↔
      rule ≠ ['*', '.', '*'] ∧
        ∀ label ∈ Label.split rule, label ≠ Label.wildcard → OrdinaryLabel label := by
  simp only [test_compile_iff_covers]
  constructor
  · rintro ⟨host, hhost, hcovers⟩
    have hdouble : rule ≠ ['*', '.', '*'] := by
      rintro rfl
      have hmem : [] ∈ Label.split host := covers_empty_between_wildcards_iff.mp hcovers
      exact (hhost [] hmem).1 rfl
    refine ⟨hdouble, fun label hlabel hne => hhost label ?_⟩
    exact mem_split_of_test hdouble (test_compile_iff_covers rule host |>.mpr hcovers) hlabel hne
  · rintro ⟨hdouble, hlabels⟩
    have hsample : ∀ label ∈ sampleLabels rule, OrdinaryLabel label := by
      intro label hlabel
      rcases mem_sampleLabels hlabel with rfl | ⟨hmem, hne⟩
      · exact ⟨by simp, by simp; decide⟩
      · exact hlabels label hmem hne
    have hsplit : Label.split (Label.join (sampleLabels rule)) = sampleLabels rule := by
      apply Label.split_join (sampleLabels_ne_nil rule)
      intro label hlabel
      rcases mem_sampleLabels hlabel with rfl | ⟨hmem, -⟩
      · decide
      · exact Label.no_dot_of_mem_split hmem
    refine ⟨Label.join (sampleLabels rule), ?_, ?_⟩
    · rw [Ordinary, hsplit]
      exact hsample
    · rw [ruleLabels_parse hdouble, hsplit]
      exact covers_sampleLabels rule

/-- The issues other than repeated wildcards are those of the rules that no ordinary host matches. -/
theorem exists_issue_iff_no_ordinary_host (rule : List Char) :
    (∃ issue ∈ Rule.lint rule, issue.kind ≠ .redundantWildcard) ↔
      ∀ host, Ordinary host → (Matcher.compile rule).test host = false := by
  rw [exists_issue_lint_iff]
  constructor
  · intro hissue host hhost
    rw [Bool.eq_false_iff]
    intro htest
    obtain ⟨hdouble, hlabels⟩ := exists_ordinary_iff.mp ⟨host, hhost, htest⟩
    rcases hissue with heq | ⟨label, hlabel, hne, hordinary⟩
    · exact hdouble heq
    · exact hordinary (hlabels label hlabel hne)
  · intro hnone
    by_contra hissue
    simp only [not_or, not_exists, not_and, not_not] at hissue
    obtain ⟨host, hhost, htest⟩ := exists_ordinary_iff.mpr hissue
    rw [hnone host hhost] at htest
    contradiction

end CleanupRules.Proofs.OrdinaryHosts
