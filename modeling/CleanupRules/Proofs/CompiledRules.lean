import CleanupRules.Proofs.RuleMeaning

/-!
What a compiled rule accepts, said of the labels of the rule as it is written. The rule `*.*` is the
only one that does not mean what its labels say.
-/

namespace CleanupRules.Proofs.CompiledRules

open LabelGlob
open RuleMeaning
open Segment (Covers covers_literal_iff covers_wildcard_iff mem_of_covers_literal)

theorem test_compile_iff_covers (rule candidate : List Char) :
    (Matcher.compile rule).test candidate = true ↔
      Covers (ruleLabels (Rule.parse rule)) (Label.split candidate) := by
  rw [Matcher.compile_eq, ← occursIn_pattern_iff]
  exact Matcher.test_iff_of_ofSource? Engine.own_lawful (Matcher.compile?_eq rule) candidate

theorem map_ofLabel_takeOpening (labels : List Label) :
    openingSegments (Rule.takeOpening labels).1 ++
      (Rule.takeOpening labels).2.map Segment.ofLabel = labels.map Segment.ofLabel := by
  cases labels with
  | nil => rfl
  | cons label labels =>
      rw [Rule.takeOpening]
      split
      · rename_i hlabel
        simp [openingSegments, Segment.ofLabel, hlabel]
      · rfl

theorem map_ofLabel_takeClosing (labels : List Label) :
    (Rule.takeClosing labels).1.map Segment.ofLabel ++
      closingSegments (Rule.takeClosing labels).2 = labels.map Segment.ofLabel := by
  rw [Rule.takeClosing]
  split
  · rename_i hlast
    obtain ⟨front, rfl⟩ := List.getLast?_eq_some_iff.mp hlast
    simp [closingSegments, Segment.ofLabel]
  · simp [closingSegments]

theorem spread_ofLabel {label : Label} (h : '.' ∉ label) :
    spread (Segment.ofLabel label) = [Segment.ofLabel label] := by
  rw [Segment.ofLabel]
  split
  · rfl
  · exact spread_of_no_dot h

theorem flatMap_spread_of_mem_split {rule : List Char} {segments : List Segment}
    (h : ∀ segment ∈ segments, segment ∈ (Label.split rule).map Segment.ofLabel) :
    segments.flatMap spread = segments := by
  induction segments with
  | nil => rfl
  | cons segment segments ih =>
      obtain ⟨label, hlabel, rfl⟩ := List.mem_map.mp (h segment (by simp))
      rw [List.flatMap_cons, spread_ofLabel (Label.no_dot_of_mem_split hlabel),
        ih fun other hother => h other (by simp [hother])]
      rfl

theorem join_label_ofLabel (text : List Char) :
    Label.join (((Label.split text).map Segment.ofLabel).map Segment.label) = text := by
  simp [List.map_map, Function.comp_def]

theorem parse_of_ne_wildcard {rule : List Char} (h : rule ≠ Label.wildcard) :
    ∃ opening segments closing, Rule.parse rule = .anchored opening segments closing ∧
      openingSegments opening ++ (segments ++ closingSegments closing) =
        (Label.split rule).map Segment.ofLabel := by
  let outer := Rule.takeOpening (Label.split rule)
  let inner := Rule.takeClosing outer.2
  refine ⟨outer.1, inner.1.map Segment.ofLabel, inner.2, if_neg h, ?_⟩
  rw [map_ofLabel_takeClosing outer.2, map_ofLabel_takeOpening]

theorem mem_split_of_literal_mem_parse {rule : List Char} {label : Label}
    (h : .literal label ∈ (Rule.parse rule).segments) :
    label ∈ Label.split rule ∧ label ≠ Label.wildcard := by
  by_cases hall : rule = Label.wildcard
  · subst hall
    contradiction
  · obtain ⟨opening, segments, closing, hparse, hlabels⟩ := parse_of_ne_wildcard hall
    rw [hparse] at h
    rw [← Segment.literal_mem_map_ofLabel_iff, ← hlabels]
    exact List.mem_append_right _ (List.mem_append_left _ h)

theorem anchors_ne_split {rule : List Char} (hall : rule ≠ Label.wildcard)
    (hdouble : rule ≠ ['*', '.', '*']) (opening : Opening) (closing : Closing) :
    openingSegments opening ++ closingSegments closing ≠
      (Label.split rule).map Segment.ofLabel := by
  intro heq
  have hjoin := join_label_ofLabel rule
  rw [← heq] at hjoin
  cases opening <;> cases closing
  case start.finish =>
      have hsplit : Label.split rule = [] := List.map_eq_nil_iff.mp heq.symm
      exact Label.split_ne_nil rule hsplit
  case start.finishOrDot => exact hall hjoin.symm
  case startOrDot.finish => exact hall hjoin.symm
  case startOrDot.finishOrDot => exact hdouble hjoin.symm

theorem ruleLabels_parse {rule : List Char} (hdouble : rule ≠ ['*', '.', '*']) :
    ruleLabels (Rule.parse rule) = (Label.split rule).map Segment.ofLabel := by
  by_cases hall : rule = Label.wildcard
  · subst hall
    rfl
  · obtain ⟨opening, segments, closing, hparse, hlabels⟩ := parse_of_ne_wildcard hall
    have hne : segments ≠ [] := by
      rintro rfl
      exact anchors_ne_split hall hdouble opening closing hlabels
    have hspread : segments.flatMap spread = segments := by
      apply flatMap_spread_of_mem_split
      intro segment hsegment
      rw [← hlabels]
      simp [hsegment]
    rw [hparse, ruleLabels, if_neg hne, labelsTo, hspread, hlabels]

theorem mem_split_of_test {rule candidate : List Char} {label : Label}
    (hdouble : rule ≠ ['*', '.', '*']) (htest : (Matcher.compile rule).test candidate = true)
    (hlabel : label ∈ Label.split rule) (hne : label ≠ Label.wildcard) :
    label ∈ Label.split candidate := by
  rw [test_compile_iff_covers, ruleLabels_parse hdouble] at htest
  apply mem_of_covers_literal htest
  exact Segment.literal_mem_map_ofLabel_iff.mpr ⟨hlabel, hne⟩

theorem covers_empty_between_wildcards_iff {labels : List Label} :
    Covers [.wildcard, .literal [], .wildcard] labels ↔ [] ∈ labels := by
  simp only [covers_wildcard_iff, covers_literal_iff]
  constructor
  · rintro ⟨run, _, rfl, rest, rfl, -⟩
    simp
  · intro h
    obtain ⟨run, rest, rfl⟩ := List.append_of_mem h
    exact ⟨run, [] :: rest, rfl, rest, rfl, rest, [], by simp, .nil⟩

/-- A compiled rule accepts the texts whose labels its own labels describe. Between the anchors of
`*.*` nothing is left, so there an empty label must be. -/
theorem test_compile_iff (rule candidate : List Char) :
    (Matcher.compile rule).test candidate = true ↔
      if rule = ['*', '.', '*'] then [] ∈ Label.split candidate
      else Covers ((Label.split rule).map Segment.ofLabel) (Label.split candidate) := by
  rw [test_compile_iff_covers]
  split
  · rename_i hdouble
    subst hdouble
    exact covers_empty_between_wildcards_iff
  · rename_i hdouble
    rw [ruleLabels_parse hdouble]

example : (Matcher.compile ['*', '.', '*']).test "a..b".toList = true ∧
    (Matcher.compile ['*', '.', '*']).test "a.b".toList = false := by
  decide

/-- The written form of the pattern of any anchors and segments is read as a matcher, also where no
rule has them. The matcher accepts the texts whose labels the segments describe with a wildcard for
each open anchor, the dots in a literal being taken for those between labels. -/
theorem test_anchored_iff (name : List Char) (opening : Opening) (segments : List Segment)
    (closing : Closing) :
    ∃ matcher,
      Matcher.ofSource? name (Rule.anchored opening segments closing).pattern.source =
        some matcher ∧
      ∀ candidate, matcher.test candidate = true ↔
        Covers
          (openingSegments opening ++
            (if segments = [] then [.literal []] else segments).flatMap spread ++
            closingSegments closing)
          (Label.split candidate) := by
  let rule := Rule.anchored opening segments closing
  have hmatcher := Matcher.ofSource?_source name rule.pattern
  refine ⟨_, hmatcher, ?_⟩
  intro candidate
  rw [Matcher.test_iff_of_ofSource? Engine.own_lawful hmatcher, occursIn_pattern_iff, ruleLabels,
    labelsTo, List.append_assoc]

end CleanupRules.Proofs.CompiledRules
