import CleanupRules.Rule.Basic
import CleanupRules.Rule.Lint

/-!
Where the issues of a rule are. The linter goes over the labels once and only remembers whether the
last one was a wildcard; what it finds is said here of the positions of all labels. The wildcards
that it calls redundant are as many as collapsing takes away.
-/

namespace CleanupRules.Proofs.LabelIssues

open Rule (labelIssue labelIssues lint)

/-- What is wrong with the label at a position. -/
inductive IssueAt (labels : List Label) : Nat → Issue → Prop
  | emptyLabel {index : Nat} :
      labels[index]? = some [] → IssueAt labels index (.emptyLabel index)
  | embeddedWildcard {index : Nat} {label : Label} :
      labels[index]? = some label → '*' ∈ label → label ≠ Label.wildcard →
        IssueAt labels index (.embeddedWildcard label)
  | redundantWildcard {index : Nat} :
      labels[index]? = some Label.wildcard → labels[index + 1]? = some Label.wildcard →
        IssueAt labels (index + 1) (.redundantWildcard (index + 1))

/-- What there is to say of a rule as a whole, and what of its labels, which is found at their
positions. -/
structure Reports (rule : List Char) (overall : List Issue) (found : List (Nat × Issue)) :
    Prop where
  overall_sublist : overall.Sublist [.whitespace, .uppercase]
  whitespace_mem_iff : .whitespace ∈ overall ↔ ∃ c ∈ rule, Text.isBlank c = true
  uppercase_mem_iff : .uppercase ∈ overall ↔ ∃ c ∈ rule, Text.isCapital c = true
  /-- The positions rise, so no label has two issues. -/
  found_increasing : found.Pairwise fun first second => first.1 < second.1
  found_mem_iff : ∀ index issue, (index, issue) ∈ found ↔ IssueAt (Label.split rule) index issue

section Positions

variable {labels : List Label} {index : Nat} {issue : Issue}

theorem IssueAt.lt_length (h : IssueAt labels index issue) : index < labels.length := by
  cases h with
  | emptyLabel hlabel => exact (List.getElem?_eq_some_iff.mp hlabel).1
  | embeddedWildcard hlabel _ _ => exact (List.getElem?_eq_some_iff.mp hlabel).1
  | redundantWildcard _ hlabel => exact (List.getElem?_eq_some_iff.mp hlabel).1

def FollowsWildcard (labels : List Label) (index : Nat) : Prop :=
  ∃ previous, index = previous + 1 ∧ labels[previous]? = some Label.wildcard

theorem mem_labelIssue_iff {label : Label} {repeats : Bool} (hlabel : labels[index]? = some label)
    (hrepeats : repeats = true ↔ FollowsWildcard labels index) :
    issue ∈ labelIssue index repeats label ↔ IssueAt labels index issue := by
  constructor
  · intro h
    rw [labelIssue] at h
    split at h
    · rename_i hempty
      obtain rfl := List.mem_singleton.mp h
      exact .emptyLabel (hempty ▸ hlabel)
    split at h
    · rename_i hwildcard
      split at h
      · rename_i hflag
        obtain rfl := List.mem_singleton.mp h
        obtain ⟨previous, rfl, hprevious⟩ := hrepeats.mp hflag
        exact .redundantWildcard hprevious (hwildcard ▸ hlabel)
      · contradiction
    · rename_i hne
      split at h
      · rename_i hstar
        obtain rfl := List.mem_singleton.mp h
        exact .embeddedWildcard hlabel hstar hne
      · contradiction
  · intro h
    cases h with
    | emptyLabel hempty =>
        obtain rfl : label = [] := Option.some.inj (hlabel.symm.trans hempty)
        simp [labelIssue]
    | embeddedWildcard hother hstar hne =>
        obtain rfl := Option.some.inj (hlabel.symm.trans hother)
        simp [labelIssue, List.ne_nil_of_mem hstar, hne, hstar]
    | redundantWildcard hprevious hwildcard =>
        obtain rfl := Option.some.inj (hlabel.symm.trans hwildcard)
        simp [labelIssue, Label.wildcard, hrepeats.mpr ⟨_, rfl, hprevious⟩]

/-- The issues of labels with the positions of these. -/
def located (start : Nat) (repeats : Bool) : List Label → List (Nat × Issue)
  | [] => []
  | label :: labels =>
      (labelIssue start repeats label).map (fun issue => (start, issue)) ++
        located (start + 1) (label = Label.wildcard) labels

theorem map_snd_located (start : Nat) (repeats : Bool) (labels : List Label) :
    (located start repeats labels).map Prod.snd = labelIssues start repeats labels := by
  induction labels generalizing start repeats with
  | nil => rfl
  | cons label labels ih =>
      rw [located, labelIssues, List.map_append, ih, List.map_map]
      simp [Function.comp_def]

theorem followsWildcard_succ_iff {label : Label} (hlabel : labels[index]? = some label) :
    FollowsWildcard labels (index + 1) ↔ label = Label.wildcard := by
  simp [FollowsWildcard, hlabel]

theorem mem_located_iff {rest : List Label} {start : Nat} {repeats : Bool}
    (hrest : labels.drop start = rest)
    (hrepeats : repeats = true ↔ FollowsWildcard labels start) :
    (index, issue) ∈ located start repeats rest ↔ start ≤ index ∧ IssueAt labels index issue := by
  induction rest generalizing start repeats with
  | nil =>
      have hlength : labels.length ≤ start := List.drop_eq_nil_iff.mp hrest
      constructor
      · intro h
        contradiction
      · rintro ⟨hstart, hissue⟩
        exact absurd hissue.lt_length (by omega)
  | cons label rest ih =>
      have hlabel : labels[start]? = some label := by
        rw [← List.head?_drop, hrest]
        rfl
      have hnext : labels.drop (start + 1) = rest := by
        rw [← List.tail_drop, hrest]
        rfl
      have hflag : decide (label = Label.wildcard) = true ↔ FollowsWildcard labels (start + 1) := by
        rw [decide_eq_true_iff, followsWildcard_succ_iff hlabel]
      rw [located, List.mem_append, ih hnext hflag]
      constructor
      · rintro (hown | ⟨hstart, hissue⟩)
        · obtain ⟨_, hissue, heq⟩ := List.mem_map.mp hown
          obtain ⟨rfl, rfl⟩ := Prod.mk.inj heq
          exact ⟨Nat.le_refl _, (mem_labelIssue_iff hlabel hrepeats).mp hissue⟩
        · exact ⟨Nat.le_of_succ_le hstart, hissue⟩
      · rintro ⟨hstart, hissue⟩
        rcases Nat.eq_or_lt_of_le hstart with rfl | hlt
        · left
          exact List.mem_map_of_mem ((mem_labelIssue_iff hlabel hrepeats).mpr hissue)
        · exact Or.inr ⟨hlt, hissue⟩

theorem le_of_mem_located {start : Nat} {repeats : Bool} {labels : List Label}
    {entry : Nat × Issue} (h : entry ∈ located start repeats labels) : start ≤ entry.1 := by
  induction labels generalizing start repeats with
  | nil => contradiction
  | cons label labels ih =>
      rcases List.mem_append.mp h with hown | hrest
      · obtain ⟨_, -, rfl⟩ := List.mem_map.mp hown
        exact Nat.le_refl start
      · exact Nat.le_of_succ_le (ih hrest)

theorem pairwise_labelIssue (relation : Issue → Issue → Prop) (start : Nat) (repeats : Bool)
    (label : Label) : (labelIssue start repeats label).Pairwise relation := by
  rw [labelIssue]
  split
  · exact List.pairwise_singleton _ _
  split
  · split
    · exact List.pairwise_singleton _ _
    · exact .nil
  · split
    · exact List.pairwise_singleton _ _
    · exact .nil

theorem pairwise_located (start : Nat) (repeats : Bool) (labels : List Label) :
    (located start repeats labels).Pairwise fun first second => first.1 < second.1 := by
  induction labels generalizing start repeats with
  | nil => exact .nil
  | cons label labels ih =>
      refine List.pairwise_append.mpr ⟨?_, ih _ _, ?_⟩
      · exact List.pairwise_map.mpr (pairwise_labelIssue _ start repeats label)
      · intro first hfirst second hsecond
        obtain ⟨_, -, rfl⟩ := List.mem_map.mp hfirst
        exact le_of_mem_located hsecond

end Positions

section Counts

theorem countP_labelIssue (start : Nat) (repeats : Bool) (label : Label) :
    (labelIssue start repeats label).countP (fun issue => issue.kind = .redundantWildcard) =
      if repeats = true ∧ label = Label.wildcard then 1 else 0 := by
  rw [labelIssue]
  split
  · rename_i hempty
    simp [hempty, Label.wildcard, Issue.kind]
  split
  · rename_i hwildcard
    cases repeats <;> simp [hwildcard, Issue.kind]
  · rename_i hne
    split <;> simp [hne, Issue.kind]

theorem length_collapse_cons (label : Label) (labels : List Label) :
    (Segment.collapse ((label :: labels).map Segment.ofLabel)).length +
        (if label = Label.wildcard ∧ labels.head? = some Label.wildcard then 1 else 0) =
      (Segment.collapse (labels.map Segment.ofLabel)).length + 1 := by
  by_cases hlabel : label = Label.wildcard
  · subst hlabel
    have hwildcard : Segment.ofLabel Label.wildcard = .wildcard := rfl
    have hhead : (labels.map Segment.ofLabel).head? = some .wildcard ↔
        labels.head? = some Label.wildcard := by
      simp [List.head?_map, Segment.ofLabel_eq_wildcard_iff]
    rw [List.map_cons, hwildcard, Segment.collapse_wildcard_cons]
    simp only [hhead, true_and]
    split
    · rfl
    · rw [List.length_cons, Nat.add_zero]
  · simp [Segment.ofLabel, hlabel, Segment.collapse]

/-- As many labels are called redundant as collapsing drops. Behind a wildcard, of which `repeats`
tells, a wildcard in front is called redundant too, and yet it may be kept. -/
theorem countP_labelIssues_add_length_collapse (start : Nat) (repeats : Bool)
    (labels : List Label) :
    (labelIssues start repeats labels).countP (fun issue => issue.kind = .redundantWildcard) +
        (Segment.collapse (labels.map Segment.ofLabel)).length =
      labels.length +
        if repeats = true ∧ labels.head? = some Label.wildcard then 1 else 0 := by
  induction labels generalizing start repeats with
  | nil => simp [labelIssues, Segment.collapse]
  | cons label labels ih =>
      have hrest := ih (start + 1) (label = Label.wildcard)
      have hcollapse := length_collapse_cons label labels
      -- Of two wildcards the linter counts the second one, but collapsing drops the first one: the
      -- pair of this label and the next one is in `hrest` for the one, in `hcollapse` for the other.
      simp only [decide_eq_true_iff] at hrest
      simp only [labelIssues, List.countP_append, countP_labelIssue, List.length_cons,
        List.head?_cons, Option.some.injEq]
      omega

end Counts

section Lint

variable {rule : List Char}

def characterIssues (rule : List Char) : List Issue :=
  (if rule.any Text.isBlank then [.whitespace] else []) ++
    (if rule.any Text.isCapital then [.uppercase] else [])

theorem lint_eq (hne : rule ≠ []) (hdouble : rule ≠ ['*', '.', '*']) :
    lint rule = characterIssues rule ++ labelIssues 0 false (Label.split rule) := by
  rw [lint, if_neg hne, if_neg hdouble, characterIssues]

theorem reports_located (rule : List Char) :
    Reports rule (characterIssues rule) (located 0 false (Label.split rule)) where
  overall_sublist := by
    rw [characterIssues]
    cases rule.any Text.isBlank <;> cases rule.any Text.isCapital <;> simp
  whitespace_mem_iff := by
    rw [← List.any_eq_true, characterIssues]
    cases rule.any Text.isBlank <;> cases rule.any Text.isCapital <;> simp
  uppercase_mem_iff := by
    rw [← List.any_eq_true, characterIssues]
    cases rule.any Text.isBlank <;> cases rule.any Text.isCapital <;> simp
  found_increasing := pairwise_located 0 false (Label.split rule)
  found_mem_iff index issue := by
    have hfirst : false = true ↔ FollowsWildcard (Label.split rule) 0 := by
      simp [FollowsWildcard]
    rw [mem_located_iff List.drop_zero hfirst]
    exact and_iff_right (Nat.zero_le index)

theorem countP_characterIssues (rule : List Char) :
    (characterIssues rule).countP (fun issue => issue.kind = .redundantWildcard) = 0 := by
  rw [characterIssues]
  cases rule.any Text.isBlank <;> cases rule.any Text.isCapital <;> simp [Issue.kind]

/-- The issues of the rule as a whole come first, then those of its labels by their positions. Of the
labels, taken as segments, collapsing takes away as many as are called redundant. -/
theorem lint_reports (hne : rule ≠ []) (hdouble : rule ≠ ['*', '.', '*']) :
    (∃ overall found, Reports rule overall found ∧ lint rule = overall ++ found.map Prod.snd) ∧
      (lint rule).countP (fun issue => issue.kind = .redundantWildcard) +
          (Segment.collapse ((Label.split rule).map Segment.ofLabel)).length =
        ((Label.split rule).map Segment.ofLabel).length := by
  constructor
  · refine ⟨_, _, reports_located rule, ?_⟩
    rw [map_snd_located, lint_eq hne hdouble]
  · rw [lint_eq hne hdouble, List.countP_append, countP_characterIssues, Nat.zero_add,
      countP_labelIssues_add_length_collapse, List.length_map]
    simp

theorem lint_reports_mixed :
    ∃ rule : List Char, rule = "X .*.*.*..a*b".toList ∧ rule ≠ [] ∧ rule ≠ ['*', '.', '*'] ∧
      lint rule = [.whitespace, .uppercase, .redundantWildcard 2, .redundantWildcard 3,
        .emptyLabel 4, .embeddedWildcard "a*b".toList] ∧
      (∃ overall found, Reports rule overall found ∧ lint rule = overall ++ found.map Prod.snd) ∧
        (lint rule).countP (fun issue => issue.kind = .redundantWildcard) +
            (Segment.collapse ((Label.split rule).map Segment.ofLabel)).length =
          ((Label.split rule).map Segment.ofLabel).length :=
  ⟨_, rfl, by decide, by decide, by decide, lint_reports (by decide) (by decide)⟩

end Lint

end CleanupRules.Proofs.LabelIssues
