import Mathlib.Data.List.Destutter
import CleanupRules.Proofs.CompiledRules

/-!
Which rules accept the same texts: those whose labels are equal once every run of wildcards is a
single one. Two rules with other labels are told apart by a text that has a label of neither in the
place of each wildcard.
-/

namespace CleanupRules.Proofs.EquivalentRules

open CompiledRules
open RuleMeaning
open Segment (Covers covers_literal_cons_iff covers_literal_iff covers_nil_iff covers_wildcard_iff
  covers_wildcard_wildcard_iff not_covers_literal_nil)

section Merged

/-- One wildcard for every run of neighbouring wildcards; other labels may repeat. -/
def mergeWildcards (labels : List Label) : List Label :=
  labels.destutter fun label next => label = Label.wildcard → next ≠ Label.wildcard

theorem covers_cons_congr {segment : Segment} {segments others : List Segment}
    (h : ∀ labels, Covers segments labels ↔ Covers others labels) (labels : List Label) :
    Covers (segment :: segments) labels ↔ Covers (segment :: others) labels := by
  cases segment with
  | literal label => simp only [covers_literal_iff, h]
  | wildcard => simp only [covers_wildcard_iff, h]

theorem covers_mergeWildcards_iff (merged labels : List Label) :
    Covers ((mergeWildcards merged).map Segment.ofLabel) labels ↔
      Covers (merged.map Segment.ofLabel) labels := by
  cases merged with
  | nil => rfl
  | cons label merged =>
      rw [mergeWildcards, List.destutter_cons']
      induction merged generalizing label labels with
      | nil => rfl
      | cons next merged ih =>
          rw [List.destutter'_cons]
          split
          · exact covers_cons_congr (fun rest => ih rest next) labels
          · rename_i hrun
            rw [Classical.not_imp, not_not] at hrun
            obtain ⟨rfl, rfl⟩ := hrun
            rw [ih]
            exact covers_wildcard_wildcard_iff.symm

theorem collapsed_mergeWildcards (labels : List Label) :
    Collapsed ((mergeWildcards labels).map Segment.ofLabel) := by
  rw [Collapsed, List.isChain_map]
  simp only [Segment.ofLabel_eq_wildcard_iff, ne_eq]
  exact List.isChain_destutter _ labels

end Merged

section Filled

variable {fresh : Label}

/-- The labels of segments, where each wildcard stands for the one label `fresh`. -/
def fill (fresh : Label) : List Segment → List Label
  | [] => []
  | .literal label :: segments => label :: fill fresh segments
  | .wildcard :: segments => fresh :: fill fresh segments

theorem covers_fill (segments : List Segment) : Covers segments (fill fresh segments) := by
  induction segments with
  | nil => exact .nil
  | cons segment segments ih =>
      cases segment with
      | literal label => exact .literal ih
      | wildcard => exact .take (.leave ih)

theorem mem_fill {segments : List Segment} {label : Label} (h : label ∈ fill fresh segments) :
    label = fresh ∨ .literal label ∈ segments := by
  induction segments with
  | nil => contradiction
  | cons segment segments ih =>
      cases segment with
      | literal first =>
          rcases List.mem_cons.mp h with rfl | hmem
          · exact Or.inr (by simp)
          · exact (ih hmem).imp id (List.mem_cons_of_mem _)
      | wildcard =>
          rcases List.mem_cons.mp h with rfl | hmem
          · exact Or.inl rfl
          · exact (ih hmem).imp id (List.mem_cons_of_mem _)

def literals (segments : List Segment) : Nat :=
  segments.countP (· ≠ .wildcard)

theorem literals_le_of_covers {segments : List Segment} {labels : List Label}
    (hfresh : .literal fresh ∉ segments) (h : Covers segments labels) :
    literals segments ≤ labels.countP (· ≠ fresh) := by
  induction h with
  | nil => exact Nat.le_refl _
  | @literal label segments labels _ ih =>
      have hlabel : label ≠ fresh := by
        rintro rfl
        exact hfresh (by simp)
      have hrest := ih fun hmem => hfresh (List.mem_cons_of_mem _ hmem)
      simpa [literals, hlabel] using hrest
  | leave _ ih =>
      have hrest := ih fun hmem => hfresh (List.mem_cons_of_mem _ hmem)
      simpa [literals] using hrest
  | take _ ih => exact (ih hfresh).trans ((List.sublist_cons_self _ _).countP_le)

theorem countP_fill {segments : List Segment} (hfresh : .literal fresh ∉ segments) :
    (fill fresh segments).countP (· ≠ fresh) = literals segments := by
  induction segments with
  | nil => rfl
  | cons segment segments ih =>
      have hrest := ih fun hmem => hfresh (List.mem_cons_of_mem _ hmem)
      cases segment with
      | literal label =>
          have hlabel : label ≠ fresh := by
            rintro rfl
            exact hfresh (by simp)
          simpa [fill, literals, hlabel] using hrest
      | wildcard => simpa [fill, literals] using hrest

/-- What a wildcard and the segments behind it describe with a fresh label in front, the segments
alone describe without: the wildcard takes the fresh label, and then nothing is to spare. -/
theorem covers_fill_of_wildcard {segments others : List Segment}
    (hsegments : Collapsed (.wildcard :: segments)) (hothers : Collapsed (.wildcard :: others))
    (hfresh : .literal fresh ∉ segments) (hfresh' : .literal fresh ∉ others)
    (hliterals : literals segments ≤ literals others)
    (h : Covers (.wildcard :: others) (fresh :: fill fresh segments)) :
    Covers others (fill fresh segments) := by
  cases h with
  | leave h =>
      cases others with
      | nil => exact absurd (covers_nil_iff.mp h) (by simp)
      | cons other others =>
          cases other with
          | literal label =>
              obtain ⟨rfl, -⟩ := covers_literal_cons_iff.mp h
              exact absurd (by simp) hfresh'
          | wildcard => exact absurd rfl ((List.isChain_cons_cons.mp hothers).1 rfl)
  | take h =>
      cases segments with
      | nil => exact Segment.covers_wildcard_nil_iff.mp h
      | cons segment segments =>
          cases segment with
          | wildcard => exact absurd rfl ((List.isChain_cons_cons.mp hsegments).1 rfl)
          | literal label =>
              cases h with
              | leave h => exact h
              | take h =>
                  have hrest : .literal fresh ∉ segments := fun hmem =>
                    hfresh (List.mem_cons_of_mem _ hmem)
                  have hle : literals others ≤ literals segments := by
                    have hcount := literals_le_of_covers (by simpa using hfresh') h
                    rw [countP_fill hrest] at hcount
                    simpa [literals] using hcount
                  have hlt : literals (.literal label :: segments) = literals segments + 1 := by
                    simp [literals]
                  omega

theorem eq_of_covers_fill (segments others : List Segment)
    (hsegments : Collapsed segments) (hothers : Collapsed others)
    (hfresh : .literal fresh ∉ segments) (hfresh' : .literal fresh ∉ others)
    (h : Covers others (fill fresh segments)) (h' : Covers segments (fill fresh others)) :
    segments = others := by
  match segments, others with
  | [], [] => rfl
  | [], .literal label :: others => exact absurd h not_covers_literal_nil
  | [], .wildcard :: others => exact absurd (covers_nil_iff.mp h') (by simp [fill])
  | .literal label :: segments, [] => exact absurd h' not_covers_literal_nil
  | .wildcard :: segments, [] => exact absurd (covers_nil_iff.mp h) (by simp [fill])
  | .literal label :: segments, .wildcard :: others =>
      obtain ⟨rfl, -⟩ := covers_literal_cons_iff.mp h'
      exact absurd (by simp) hfresh
  | .wildcard :: segments, .literal label :: others =>
      obtain ⟨rfl, -⟩ := covers_literal_cons_iff.mp h
      exact absurd (by simp) hfresh'
  | .literal label :: segments, .literal other :: others =>
      simp only [List.mem_cons, not_or] at hfresh hfresh'
      obtain ⟨rfl, hrest⟩ := covers_literal_cons_iff.mp h
      obtain ⟨-, hrest'⟩ := covers_literal_cons_iff.mp h'
      rw [eq_of_covers_fill segments others hsegments.tail hothers.tail hfresh.2 hfresh'.2
        hrest hrest']
  | .wildcard :: segments, .wildcard :: others =>
      have hle : literals (.wildcard :: others) ≤ literals (.wildcard :: segments) := by
        rw [← countP_fill hfresh]
        exact literals_le_of_covers hfresh' h
      have hle' : literals (.wildcard :: segments) ≤ literals (.wildcard :: others) := by
        rw [← countP_fill hfresh']
        exact literals_le_of_covers hfresh h'
      have hrest : .literal fresh ∉ segments := by simpa using hfresh
      have hrest' : .literal fresh ∉ others := by simpa using hfresh'
      rw [eq_of_covers_fill segments others hsegments.tail hothers.tail hrest hrest'
        (covers_fill_of_wildcard hsegments hothers hrest hrest' (by simpa [literals] using hle') h)
        (covers_fill_of_wildcard hothers hsegments hrest' hrest (by simpa [literals] using hle) h')]

end Filled

/-- The labels of a rule, with the empty label that the anchors of `*.*` enclose. -/
def countedLabels (rule : List Char) : List Label :=
  if rule = ['*', '.', '*'] then [Label.wildcard, [], Label.wildcard] else Label.split rule

theorem ruleLabels_parse_eq (rule : List Char) :
    ruleLabels (Rule.parse rule) = (countedLabels rule).map Segment.ofLabel := by
  rw [countedLabels]
  split
  · rename_i hdouble
    rw [hdouble]
    rfl
  · rename_i hdouble
    exact ruleLabels_parse hdouble

theorem no_dot_of_mem_countedLabels {rule : List Char} {label : Label}
    (h : label ∈ countedLabels rule) : '.' ∉ label := by
  rw [countedLabels] at h
  split at h
  · revert label
    decide
  · exact Label.no_dot_of_mem_split h

theorem countedLabels_ne_nil (rule : List Char) : countedLabels rule ≠ [] := by
  rw [countedLabels]
  split
  · simp
  · exact Label.split_ne_nil rule

/-- The segments of a rule with its runs of wildcards merged. -/
def mergedSegments (rule : List Char) : List Segment :=
  (mergeWildcards (countedLabels rule)).map Segment.ofLabel

theorem test_compile_iff_covers_merged (rule candidate : List Char) :
    (Matcher.compile rule).test candidate = true ↔
      Covers (mergedSegments rule) (Label.split candidate) := by
  rw [test_compile_iff_covers, ruleLabels_parse_eq, mergedSegments, covers_mergeWildcards_iff]

theorem mem_of_literal_mem_mergedSegments {rule : List Char} {label : Label}
    (h : .literal label ∈ mergedSegments rule) : label ∈ countedLabels rule := by
  have hmerged := (Segment.literal_mem_map_ofLabel_iff.mp h).1
  exact (List.destutter_sublist _ _).subset hmerged

theorem fill_mergedSegments_ne_nil (fresh : Label) (rule : List Char) :
    fill fresh (mergedSegments rule) ≠ [] := by
  have hne : mergedSegments rule ≠ [] := by
    rw [mergedSegments, ne_eq, List.map_eq_nil_iff, mergeWildcards, List.destutter_eq_nil]
    exact countedLabels_ne_nil rule
  obtain ⟨segment, segments, heq⟩ := List.exists_cons_of_ne_nil hne
  rw [heq]
  cases segment <;> simp [fill]

theorem split_join_fill {fresh : Label} (hdot : '.' ∉ fresh) (rule : List Char) :
    Label.split (Label.join (fill fresh (mergedSegments rule))) =
      fill fresh (mergedSegments rule) := by
  apply Label.split_join (fill_mergedSegments_ne_nil fresh rule)
  intro label hlabel
  rcases mem_fill hlabel with rfl | hmem
  · exact hdot
  · exact no_dot_of_mem_countedLabels (mem_of_literal_mem_mergedSegments hmem)

theorem exists_fresh_label (labels : List Label) : ∃ fresh : Label, '.' ∉ fresh ∧ fresh ∉ labels := by
  refine ⟨List.replicate (labels.flatten.length + 1) 'a', ?_, ?_⟩
  · simp
  · intro hmem
    have hle := (List.sublist_flatten_of_mem hmem).length_le
    rw [List.length_replicate] at hle
    omega

theorem map_ofLabel_injective : Function.Injective (List.map Segment.ofLabel) :=
  List.map_injective_iff.mpr (Function.LeftInverse.injective Segment.label_ofLabel)

theorem covers_fill_of_tests {rule other : List Char} {fresh : Label} (hdot : '.' ∉ fresh)
    (h : ∀ candidate,
      (Matcher.compile rule).test candidate = (Matcher.compile other).test candidate) :
    Covers (mergedSegments other) (fill fresh (mergedSegments rule)) := by
  have haccepts : (Matcher.compile rule).test
      (Label.join (fill fresh (mergedSegments rule))) = true := by
    rw [test_compile_iff_covers_merged, split_join_fill hdot]
    exact covers_fill _
  rwa [h, test_compile_iff_covers_merged, split_join_fill hdot] at haccepts

theorem mergedSegments_eq_of_tests {rule other : List Char}
    (h : ∀ candidate,
      (Matcher.compile rule).test candidate = (Matcher.compile other).test candidate) :
    mergedSegments rule = mergedSegments other := by
  obtain ⟨fresh, hdot, hfresh⟩ := exists_fresh_label (countedLabels rule ++ countedLabels other)
  rw [List.mem_append, not_or] at hfresh
  apply eq_of_covers_fill _ _ (collapsed_mergeWildcards _) (collapsed_mergeWildcards _)
  · exact fun hmem => hfresh.1 (mem_of_literal_mem_mergedSegments hmem)
  · exact fun hmem => hfresh.2 (mem_of_literal_mem_mergedSegments hmem)
  · exact covers_fill_of_tests hdot h
  · exact covers_fill_of_tests hdot fun candidate => (h candidate).symm

/-- Two rules accept the same texts exactly if their labels differ in the lengths of runs of
wildcards only. -/
theorem tests_agree_iff (rule other : List Char) :
    (∀ candidate, (Matcher.compile rule).test candidate = (Matcher.compile other).test candidate) ↔
      mergeWildcards (countedLabels rule) = mergeWildcards (countedLabels other) := by
  constructor
  · intro h
    exact map_ofLabel_injective (mergedSegments_eq_of_tests h)
  · intro h candidate
    rw [Bool.eq_iff_iff, test_compile_iff_covers_merged, test_compile_iff_covers_merged,
      mergedSegments, h, mergedSegments]

example : mergeWildcards (countedLabels "*.*.a.*.*.*.b.*.*".toList) =
    mergeWildcards (countedLabels "*.a.*.b.*".toList) := by
  decide

end CleanupRules.Proofs.EquivalentRules
