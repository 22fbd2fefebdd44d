import Mathlib.Data.List.Chain
import CleanupRules.Matcher
import CleanupRules.Proofs.LabelGlob
import CleanupRules.Proofs.PatternContinuation

/-!
What rules mean. The pattern of a rule occurs in a text exactly if the segments of the rule, its
anchors counted as wildcards, describe the labels of the text.
-/

namespace CleanupRules.Proofs.RuleMeaning

open LabelGlob
open Pattern (Branch)
open PatternContinuation
open Segment (Covers covers_nil_iff covers_of_covers_nil covers_only_wildcard
  covers_wildcard_nil_iff)

section Pieces

variable {next : Branch} {goal : List Char → List Char → Prop} {ahead : List Char → Prop}
  (hnext : ∀ before rest, BranchLeads next goal before rest ↔ ahead rest)

include hnext

theorem leads_gap_between_iff (before rest : List Char) :
    BranchLeads (Segment.gap true true next) goal before rest ↔
      ∃ more, rest = '.' :: more ∧ ∃ start, LabelStart more start ∧ ahead start := by
  simp only [Segment.gap, BranchLeads, Leads, hnext, Bool.false_eq_true, false_and, or_false]
  constructor
  · rintro (⟨_, rfl, run, _, rfl, start, rfl, h⟩ | ⟨more, rfl, h⟩)
    · exact ⟨_, rfl, start, Or.inr ⟨run, rfl⟩, h⟩
    · exact ⟨more, rfl, more, Or.inl rfl, h⟩
  · rintro ⟨more, rfl, start, rfl | ⟨run, rfl⟩, h⟩
    · exact Or.inr ⟨start, rfl, h⟩
    · exact Or.inl ⟨_, rfl, run, _, rfl, start, rfl, h⟩

theorem leads_gap_leading_iff (before rest : List Char) :
    BranchLeads (Segment.gap false true next) goal before rest ↔
      ∃ start, LabelStart rest start ∧ ahead start := by
  simp only [Segment.gap, BranchLeads, Leads, hnext, true_and]
  constructor
  · rintro (⟨run, _, rfl, start, rfl, h⟩ | h)
    · exact ⟨start, Or.inr ⟨run, rfl⟩, h⟩
    · exact ⟨rest, Or.inl rfl, h⟩
  · rintro ⟨start, rfl | ⟨run, rfl⟩, h⟩
    · exact Or.inr h
    · exact Or.inl ⟨run, _, rfl, start, rfl, h⟩

theorem leads_gap_trailing_iff (before rest : List Char) :
    BranchLeads (Segment.gap true false next) goal before rest ↔
      ahead rest ∨ ∃ run more, rest = '.' :: (run ++ more) ∧ ahead more := by
  simp only [Segment.gap, BranchLeads, Leads, hnext, true_and]
  constructor
  · rintro (⟨_, rfl, run, more, rfl, h⟩ | h)
    · exact Or.inr ⟨run, more, rfl, h⟩
    · exact Or.inl h
  · rintro (h | ⟨run, more, rfl, h⟩)
    · exact Or.inr h
    · exact Or.inl ⟨_, rfl, run, more, rfl, h⟩

theorem leads_gap_alone_iff (before rest : List Char) :
    BranchLeads (Segment.gap false false next) goal before rest ↔
      ∃ run more, rest = run ++ more ∧ ahead more := by
  simp only [Segment.gap, BranchLeads, hnext]

theorem leads_text_iff (literal before rest : List Char) :
    BranchLeads (Branch.text literal next) goal before rest ↔
      ∃ more, rest = literal ++ more ∧ ahead more := by
  simp only [branchLeads_text_iff, hnext]

theorem leads_start_iff (before rest : List Char) :
    BranchLeads (Opening.start.branch next) goal before rest ↔ before = [] ∧ ahead rest := by
  simp only [Opening.branch, BranchLeads, hnext]

theorem leads_startOrDot_iff (before rest : List Char) :
    BranchLeads (Opening.startOrDot.branch next) goal before rest ↔
      before = [] ∧ ∃ start, LabelStart rest start ∧ ahead start := by
  simp only [Opening.branch, BranchLeads, Leads, hnext, Bool.false_eq_true, false_and, or_false]
  constructor
  · rintro (⟨hbefore, h⟩ | ⟨hbefore, run, _, rfl, start, rfl, h⟩)
    · exact ⟨hbefore, rest, Or.inl rfl, h⟩
    · exact ⟨hbefore, start, Or.inr ⟨run, rfl⟩, h⟩
  · rintro ⟨hbefore, start, rfl | ⟨run, rfl⟩, h⟩
    · exact Or.inl ⟨hbefore, h⟩
    · exact Or.inr ⟨hbefore, run, _, rfl, start, rfl, h⟩

end Pieces

/-- An anchor as the segments that it allows for in front of a rule. -/
def openingSegments : Opening → List Segment
  | .start => []
  | .startOrDot => [.wildcard]

def closingSegments : Closing → List Segment
  | .finish => []
  | .finishOrDot => [.wildcard]

/-- Any end of a stretch will do. -/
abbrev anywhere : List Char → List Char → Prop := fun _ _ => True

theorem leads_closing_iff (closing : Closing) (before rest : List Char) :
    BranchLeads (closing.branch .done) anywhere before rest ↔
      CoversAfter (closingSegments closing) rest := by
  cases closing with
  | finish =>
      cases rest with
      | nil => simp [Closing.branch, BranchLeads, CoversAfter, closingSegments, covers_nil_iff]
      | cons c rest =>
          simp [Closing.branch, BranchLeads, CoversAfter, closingSegments, covers_nil_iff,
            Label.split_ne_nil]
  | finishOrDot =>
      cases rest with
      | nil =>
          simp [Closing.branch, BranchLeads, Leads, CoversAfter, closingSegments,
            covers_only_wildcard]
      | cons c rest =>
          simp only [Closing.branch, BranchLeads, Leads, CoversAfter, closingSegments,
            covers_only_wildcard, and_true, Bool.false_eq_true, or_false]
          constructor
          · rintro (heq | ⟨_, heq, -⟩)
            · contradiction
            · exact (List.cons.inj heq).1
          · rintro rfl
            exact Or.inr ⟨rest, rfl, rest, [], by simp, rfl⟩

theorem covers_closing_nil (closing : Closing) : Covers (closingSegments closing) [] := by
  cases closing with
  | finish => exact .nil
  | finishOrDot => exact .leave .nil

theorem covers_wildcard_closing (closing : Closing) (labels : List Label) :
    Covers (.wildcard :: closingSegments closing) labels :=
  covers_of_covers_nil (by simp) (.leave (covers_closing_nil closing)) labels

theorem coversAfter_wildcard_closing_iff (closing : Closing) (rest : List Char) :
    CoversAfter (.wildcard :: closingSegments closing) rest ↔
      CoversAfter (closingSegments closing) rest ∨
        ∃ run more, rest = '.' :: (run ++ more) ∧ CoversAfter (closingSegments closing) more := by
  cases rest with
  | nil => simp [CoversAfter, covers_closing_nil, covers_wildcard_closing]
  | cons c rest =>
      simp only [CoversAfter, covers_wildcard_closing, and_true]
      constructor
      · rintro rfl
        exact Or.inr ⟨rest, [], by simp, covers_closing_nil closing⟩
      · rintro (⟨rfl, -⟩ | ⟨run, more, heq, -⟩)
        · rfl
        · exact (List.cons.inj heq).1

/-- No wildcard follows another one. -/
def Collapsed (segments : List Segment) : Prop :=
  segments.IsChain fun segment next => segment = .wildcard → next ≠ .wildcard

theorem collapsed_collapse (segments : List Segment) : Collapsed (Segment.collapse segments) := by
  induction segments with
  | nil => exact List.isChain_nil
  | cons segment segments ih =>
      cases segment with
      | literal label =>
          rw [Segment.collapse]
          refine List.isChain_cons.mpr ⟨?_, ih⟩
          intro next _ hliteral
          contradiction
      | wildcard =>
          rw [Segment.collapse_wildcard_cons]
          split
          · exact ih
          · rename_i hhead
            refine List.isChain_cons.mpr ⟨?_, ih⟩
            rintro next hnext - rfl
            rw [Segment.head?_collapse] at hnext
            exact hhead hnext

section Segments

variable (closing : Closing)

/-- The segments as labels, then the closing anchor as a wildcard. -/
def labelsTo (segments : List Segment) : List Segment :=
  segments.flatMap spread ++ closingSegments closing

theorem labelsTo_cons (segment : Segment) (segments : List Segment) :
    labelsTo closing (segment :: segments) = spread segment ++ labelsTo closing segments := by
  simp [labelsTo]

theorem not_covers_labelsTo_literal_nil {literal : List Char} {segments : List Segment} :
    ¬ Covers (labelsTo closing (.literal literal :: segments)) [] := by
  rw [labelsTo_cons]
  exact not_covers_spread_literal_nil

theorem labelsTo_ne_nil (segment : Segment) (segments : List Segment) :
    labelsTo closing (segment :: segments) ≠ [] := by
  rw [labelsTo_cons]
  cases segment with
  | literal text => simp [spread, Label.split_ne_nil]
  | wildcard => simp [spread]

theorem leads_literal_iff {segments : List Segment}
    (hsegments : ∀ front rest,
      BranchLeads (Segment.branchFrom true true segments (closing.branch .done)) anywhere
          front rest ↔ CoversAfter (labelsTo closing segments) rest)
    (literal front rest : List Char) :
    BranchLeads (Branch.text literal
        (Segment.branchFrom true true segments (closing.branch .done))) anywhere front rest ↔
      Covers (labelsTo closing (.literal literal :: segments)) (Label.split rest) := by
  rw [labelsTo_cons, covers_spread_literal_iff]
  exact leads_text_iff hsegments literal front rest

/-- The pattern of segments behind a label, and what it describes up to the end of the text. The
recursion passes a wildcard together with the literal behind it. -/
theorem leads_branchFrom_iff (segments : List Segment) (hcollapsed : Collapsed segments)
    (front rest : List Char) :
    BranchLeads (Segment.branchFrom true true segments (closing.branch .done)) anywhere
        front rest ↔ CoversAfter (labelsTo closing segments) rest := by
  match segments, hcollapsed with
  | [], _ => exact leads_closing_iff closing front rest
  | .literal literal :: segments, hcollapsed =>
      have hsegments := leads_branchFrom_iff segments hcollapsed.tail
      rw [coversAfter_iff_of_not_nil (not_covers_labelsTo_literal_nil closing)]
      refine exists_congr fun more => and_congr_right fun _ => ?_
      exact leads_literal_iff closing hsegments literal _ more
  | [.wildcard], _ =>
      rw [labelsTo_cons, spread, List.singleton_append]
      exact (leads_gap_trailing_iff (leads_closing_iff closing) front rest).trans
        (coversAfter_wildcard_closing_iff closing rest).symm
  | .wildcard :: .literal literal :: segments, hcollapsed =>
      have hsegments := leads_branchFrom_iff segments hcollapsed.tail.tail
      have hliteral := leads_literal_iff closing hsegments literal
      have hnil : ¬ Covers (labelsTo closing (.literal literal :: segments)) [] :=
        not_covers_labelsTo_literal_nil closing
      rw [labelsTo_cons, spread, List.singleton_append,
        coversAfter_iff_of_not_nil (covers_wildcard_nil_iff.not.mpr hnil)]
      refine (leads_gap_between_iff hliteral front rest).trans ?_
      refine exists_congr fun more => and_congr_right fun _ => ?_
      exact (covers_wildcard_split_iff (labelsTo_ne_nil closing _ _)).symm
  | .wildcard :: .wildcard :: segments, hcollapsed =>
      exact absurd rfl ((List.isChain_cons_cons.mp hcollapsed).1 rfl)

theorem leads_branch_iff (segments : List Segment) (hcollapsed : Collapsed segments)
    (front rest : List Char) :
    BranchLeads (Segment.branch segments (closing.branch .done)) anywhere front rest ↔
      Covers (labelsTo closing (if segments = [] then [.literal []] else segments))
        (Label.split rest) := by
  match segments, hcollapsed with
  | [], _ =>
      rw [if_pos rfl, labelsTo_cons, spread, Label.split, List.map_singleton,
        List.singleton_append, covers_literal_nil_split_iff]
      exact leads_closing_iff closing front rest
  | .literal literal :: segments, hcollapsed =>
      have hsegments := leads_branchFrom_iff closing segments hcollapsed.tail
      exact leads_literal_iff closing hsegments literal front rest
  | [.wildcard], _ =>
      refine (leads_gap_alone_iff (leads_closing_iff closing) front rest).trans ?_
      constructor
      · intro _
        exact covers_wildcard_closing closing _
      · intro _
        exact ⟨rest, [], by simp, covers_closing_nil closing⟩
  | .wildcard :: .literal literal :: segments, hcollapsed =>
      have hsegments := leads_branchFrom_iff closing segments hcollapsed.tail.tail
      have hliteral := leads_literal_iff closing hsegments literal
      refine (leads_gap_leading_iff hliteral front rest).trans ?_
      exact (covers_wildcard_split_iff (labelsTo_ne_nil closing _ _)).symm
  | .wildcard :: .wildcard :: segments, hcollapsed =>
      exact absurd rfl ((List.isChain_cons_cons.mp hcollapsed).1 rfl)

end Segments

theorem collapse_eq_nil_iff {segments : List Segment} :
    Segment.collapse segments = [] ↔ segments = [] := by
  rw [← List.head?_eq_none_iff, Segment.head?_collapse, List.head?_eq_none_iff]

/-- The labels that a rule asks for, its anchors being wildcards. Anchors with nothing between them
enclose an empty label. -/
def ruleLabels : Rule → List Segment
  | .everything => [.wildcard]
  | .anchored opening segments closing =>
      openingSegments opening ++
        labelsTo closing (if segments = [] then [.literal []] else segments)

theorem labelsTo_core_ne_nil (closing : Closing) (segments : List Segment) :
    labelsTo closing (if segments = [] then [.literal []] else segments) ≠ [] := by
  split
  · exact labelsTo_ne_nil closing _ _
  · rename_i hne
    obtain ⟨segment, segments, rfl⟩ := List.exists_cons_of_ne_nil hne
    exact labelsTo_ne_nil closing _ _

theorem covers_core_collapse_iff (closing : Closing) (segments : List Segment)
    {labels : List Label} :
    Covers (labelsTo closing (if Segment.collapse segments = [] then [.literal []]
        else Segment.collapse segments)) labels ↔
      Covers (labelsTo closing (if segments = [] then [.literal []] else segments)) labels := by
  simp only [collapse_eq_nil_iff]
  split
  · rfl
  · exact Segment.covers_flatMap_collapse_iff rfl

theorem occursIn_pattern_iff (rule : Rule) (text : List Char) :
    rule.pattern.OccursIn text ↔ Covers (ruleLabels rule) (Label.split text) := by
  rw [occursIn_iff_leads]
  cases rule with
  | everything =>
      simp only [ruleLabels, covers_only_wildcard, iff_true]
      refine ⟨[], text, rfl, ?_⟩
      simp [Rule.pattern, Leads, BranchLeads]
  | anchored opening segments closing =>
      have hbranch := leads_branch_iff closing _ (collapsed_collapse segments)
      simp only [covers_core_collapse_iff] at hbranch
      cases opening with
      | start =>
          simp only [Rule.pattern, Leads, leads_start_iff hbranch, ruleLabels, openingSegments]
          constructor
          · rintro ⟨before, rest, rfl, rfl, h⟩
            exact h
          · intro h
            exact ⟨[], text, rfl, rfl, h⟩
      | startOrDot =>
          simp only [Rule.pattern, Leads, leads_startOrDot_iff hbranch, ruleLabels,
            openingSegments, List.singleton_append,
            covers_wildcard_split_iff (labelsTo_core_ne_nil closing segments)]
          constructor
          · rintro ⟨before, rest, rfl, rfl, h⟩
            exact h
          · intro h
            exact ⟨[], text, rfl, rfl, h⟩

end CleanupRules.Proofs.RuleMeaning
