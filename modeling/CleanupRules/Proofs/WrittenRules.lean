import CleanupRules.Proofs.DistinctSources

/-!
Rules written down again. What is read from a text has the labels of the text in their order, none
twice and none left out, so writing it gives the text back. Of the rules whose literals are labels
other than `*`, with one at each end that is closed, no other one is written as that text.
-/

namespace CleanupRules.Proofs.WrittenRules

open CompiledRules (mem_split_of_literal_mem_parse parse_of_ne_wildcard)
open DistinctSources (exists_literal_of_parse_start)
open RuleMeaning (closingSegments openingSegments)

/-- The labels that a rule is written with; an open anchor is a wildcard at that end. -/
def labels : Rule → List Label
  | .everything => [Label.wildcard]
  | .anchored opening segments closing =>
      (openingSegments opening ++ (segments ++ closingSegments closing)).map Segment.label

def written (rule : Rule) : List Char :=
  Label.join (labels rule)

/-- The form that rules are read in. A wildcard at an end is an open anchor, so that a closed one has
a literal beside it. -/
structure Canonical (rule : Rule) : Prop where
  plain : ∀ label, .literal label ∈ rule.segments → label ≠ Label.wildcard ∧ '.' ∉ label
  literal_first : rule.opening = .start → ∃ label, rule.segments.head? = some (.literal label)
  literal_last : rule.closing = .finish → ∃ label, rule.segments.getLast? = some (.literal label)

section Reading

theorem labels_parse (text : List Char) : labels (Rule.parse text) = Label.split text := by
  by_cases hall : text = Label.wildcard
  · subst hall
    rfl
  · obtain ⟨opening, segments, closing, hparse, hlabels⟩ := parse_of_ne_wildcard hall
    rw [hparse, labels, hlabels]
    simp [List.map_map, Function.comp_def]

theorem written_parse (text : List Char) : written (Rule.parse text) = text := by
  rw [written, labels_parse, Label.join_split]

theorem takeOpening_split_ne_nil {text : List Char} (h : text ≠ Label.wildcard) :
    (Rule.takeOpening (Label.split text)).2 ≠ [] := by
  obtain ⟨label, rest, hsplit⟩ := List.exists_cons_of_ne_nil (Label.split_ne_nil text)
  rw [hsplit, Rule.takeOpening]
  split
  · rename_i hlabel
    rintro rfl
    apply h
    rw [← Label.join_split text, hsplit, hlabel]
    rfl
  · exact List.cons_ne_nil label rest

theorem exists_literal_of_parse_finish {text : List Char} {opening : Opening}
    {segments : List Segment} (h : Rule.parse text = .anchored opening segments .finish) :
    ∃ label, segments.getLast? = some (.literal label) := by
  rw [Rule.parse] at h
  split at h
  · contradiction
  rename_i hall
  obtain ⟨front, last, hrest⟩ :=
    (List.eq_nil_or_concat _).resolve_left (takeOpening_split_ne_nil hall)
  rw [List.concat_eq_append] at hrest
  by_cases hlast : last = Label.wildcard
  · simp [hrest, hlast, Rule.takeClosing] at h
  · simp only [hrest, Rule.takeClosing, List.getLast?_concat, Option.some.injEq, if_neg hlast] at h
    obtain ⟨-, rfl, -⟩ := Rule.anchored.inj h
    exact ⟨last, by simp [Segment.ofLabel, hlast]⟩

theorem canonical_parse (text : List Char) : Canonical (Rule.parse text) where
  plain label hlabel := by
    obtain ⟨hmem, hne⟩ := mem_split_of_literal_mem_parse hlabel
    exact ⟨hne, Label.no_dot_of_mem_split hmem⟩
  literal_first hopening := by
    cases hparse : Rule.parse text with
    | everything => simp [hparse, Rule.opening] at hopening
    | anchored opening segments closing =>
        obtain rfl : opening = .start := by simpa [hparse, Rule.opening] using hopening
        obtain ⟨label, rest, rfl⟩ := exists_literal_of_parse_start hparse
        exact ⟨label, rfl⟩
  literal_last hclosing := by
    cases hparse : Rule.parse text with
    | everything => simp [hparse, Rule.closing] at hclosing
    | anchored opening segments closing =>
        obtain rfl : closing = .finish := by simpa [hparse, Rule.closing] using hclosing
        exact exists_literal_of_parse_finish hparse

end Reading

section Writing

theorem takeOpening_append (opening : Opening) {labels : List Label}
    (h : opening = .start → labels.head? ≠ some Label.wildcard) :
    Rule.takeOpening ((openingSegments opening).map Segment.label ++ labels) =
      (opening, labels) := by
  cases opening with
  | startOrDot => rfl
  | start =>
      cases labels with
      | nil => rfl
      | cons label labels =>
          have hlabel : label ≠ Label.wildcard := fun heq => h rfl (congrArg some heq)
          exact if_neg hlabel

theorem takeClosing_append (closing : Closing) {labels : List Label}
    (h : closing = .finish → labels.getLast? ≠ some Label.wildcard) :
    Rule.takeClosing (labels ++ (closingSegments closing).map Segment.label) =
      (labels, closing) := by
  cases closing with
  | finishOrDot => simp [Rule.takeClosing, closingSegments, Segment.label]
  | finish => simp [Rule.takeClosing, closingSegments, h rfl]

theorem map_ofLabel_map_label {segments : List Segment}
    (h : ∀ label, .literal label ∈ segments → label ≠ Label.wildcard) :
    (segments.map Segment.label).map Segment.ofLabel = segments := by
  rw [List.map_map]
  refine (List.map_congr_left fun segment hsegment => ?_).trans (List.map_id segments)
  apply Segment.ofLabel_label
  rintro rfl
  exact h _ hsegment rfl

variable {rule : Rule} {opening : Opening} {segments : List Segment} {closing : Closing}

theorem Canonical.begins (h : Canonical (.anchored .start segments closing)) :
    ∃ label rest, segments = .literal label :: rest ∧ label ≠ Label.wildcard := by
  obtain ⟨label, hfirst⟩ := h.literal_first rfl
  obtain ⟨rest, rfl⟩ := List.head?_eq_some_iff.mp hfirst
  exact ⟨label, rest, rfl, (h.plain label List.mem_cons_self).1⟩

theorem Canonical.ends (h : Canonical (.anchored opening segments .finish)) :
    ∃ front label, segments = front ++ [.literal label] ∧ label ≠ Label.wildcard := by
  obtain ⟨label, hlast⟩ := h.literal_last rfl
  obtain ⟨front, rfl⟩ := List.getLast?_eq_some_iff.mp hlast
  exact ⟨front, label, rfl, (h.plain label List.mem_concat_self).1⟩

theorem no_dot_of_mem_labels (h : Canonical rule) : ∀ label ∈ labels rule, '.' ∉ label := by
  have hwildcard : '.' ∉ Label.wildcard := by decide
  intro label hlabel
  cases rule with
  | everything =>
      rw [List.mem_singleton.mp hlabel]
      exact hwildcard
  | anchored opening segments closing =>
      obtain ⟨segment, hsegment, rfl⟩ := List.mem_map.mp hlabel
      cases segment with
      | wildcard => exact hwildcard
      | literal label =>
          have hmem : .literal label ∈ segments := by
            cases opening <;> cases closing <;>
              simpa [openingSegments, closingSegments] using hsegment
          exact (h.plain label hmem).2

theorem labels_ne_of_canonical (h : Canonical (.anchored opening segments closing)) :
    labels (.anchored opening segments closing) ≠ [] ∧
      labels (.anchored opening segments closing) ≠ [Label.wildcard] := by
  cases opening with
  | start =>
      obtain ⟨label, rest, rfl, hne⟩ := h.begins
      exact ⟨List.cons_ne_nil _ _, fun heq => hne (List.cons.inj heq).1⟩
  | startOrDot =>
      refine ⟨List.cons_ne_nil _ _, fun heq => ?_⟩
      have hnil : segments ++ closingSegments closing = [] :=
        List.map_eq_nil_iff.mp (List.cons.inj heq).2
      cases closing with
      | finishOrDot => simp [closingSegments] at hnil
      | finish =>
          obtain ⟨front, label, rfl, -⟩ := h.ends
          simp at hnil

theorem split_written (h : Canonical (.anchored opening segments closing)) :
    Label.split (written (.anchored opening segments closing)) =
      labels (.anchored opening segments closing) :=
  Label.split_join (labels_ne_of_canonical h).1 (no_dot_of_mem_labels h)

theorem parse_written (h : Canonical rule) : Rule.parse (written rule) = rule := by
  cases rule with
  | everything => rfl
  | anchored opening segments closing =>
      have hsplit := split_written h
      have hall : written (.anchored opening segments closing) ≠ Label.wildcard := by
        intro heq
        rw [heq] at hsplit
        exact (labels_ne_of_canonical h).2 hsplit.symm
      have hfirst : opening = .start →
          (segments.map Segment.label ++ (closingSegments closing).map Segment.label).head? ≠
            some Label.wildcard := by
        rintro rfl
        obtain ⟨label, rest, rfl, hne⟩ := h.begins
        exact fun heq => hne (Option.some.inj heq)
      have hlast : closing = .finish →
          (segments.map Segment.label).getLast? ≠ some Label.wildcard := by
        rintro rfl
        obtain ⟨front, label, rfl, hne⟩ := h.ends
        simpa [Segment.label] using hne
      have hsegments : (segments.map Segment.label).map Segment.ofLabel = segments :=
        map_ofLabel_map_label fun label hlabel => (h.plain label hlabel).1
      rw [Rule.parse, if_neg hall, hsplit, labels, List.map_append, List.map_append]
      simp only [takeOpening_append opening hfirst, takeClosing_append closing hlast, hsegments]

end Writing

theorem segments_parse_eq_nil_iff {text : List Char} :
    (Rule.parse text).segments = [] ↔ text = Label.wildcard ∨ text = ['*', '.', '*'] := by
  constructor
  · intro hnil
    have hcanonical := canonical_parse text
    rw [← written_parse text]
    cases hparse : Rule.parse text with
    | everything => exact Or.inl rfl
    | anchored opening segments closing =>
        rw [hparse] at hnil hcanonical
        obtain rfl : segments = [] := hnil
        cases opening with
        | start =>
            obtain ⟨label, rest, hsegments, -⟩ := hcanonical.begins
            contradiction
        | startOrDot =>
            cases closing with
            | finishOrDot => exact Or.inr rfl
            | finish =>
                obtain ⟨front, label, hsegments, -⟩ := hcanonical.ends
                simp at hsegments
  · rintro (rfl | rfl) <;> rfl

/-- Reading a rule loses nothing: written again it is the text that it was read from. It is read in
canonical form, it is the only rule of that form that is written so, and apart from `*` and `*.*` it
has something between its anchors. -/
theorem parse_loses_nothing (text : List Char) :
    written (Rule.parse text) = text ∧
      Canonical (Rule.parse text) ∧
      (∀ rule, Canonical rule → written rule = text → rule = Rule.parse text) ∧
      ((Rule.parse text).segments = [] ↔ text = Label.wildcard ∨ text = ['*', '.', '*']) := by
  refine ⟨written_parse text, canonical_parse text, ?_, segments_parse_eq_nil_iff⟩
  rintro rule hcanonical rfl
  exact (parse_written hcanonical).symm

example :
    let rule := Rule.anchored .startOrDot [.wildcard, .literal [], .literal "ab*c".toList] .finish
    Rule.parse "*.*..ab*c".toList = rule ∧ written rule = "*.*..ab*c".toList := by
  decide

end CleanupRules.Proofs.WrittenRules
