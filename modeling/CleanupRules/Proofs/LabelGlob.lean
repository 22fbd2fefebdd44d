import CleanupRules.Rule.Glob

/-!
What segments say of a text. `Segment.Covers` speaks of labels, a pattern of characters; here the
labels are read off the text from the left, once from where a label begins and once from where one
ends.
-/

namespace CleanupRules.Proofs.LabelGlob

open Segment (Covers covers_literal_cons_iff covers_of_covers_nil covers_wildcard_iff
  not_covers_literal_nil)

/-- The segments describe what follows the end of a label: nothing, or a dot and further labels. -/
def CoversAfter (segments : List Segment) : List Char → Prop
  | [] => Covers segments []
  | c :: rest => c = '.' ∧ Covers segments (Label.split rest)

theorem coversAfter_iff_of_not_nil {segments : List Segment} (h : ¬ Covers segments [])
    {text : List Char} :
    CoversAfter segments text ↔ ∃ rest, text = '.' :: rest ∧ Covers segments (Label.split rest) := by
  cases text with
  | nil => simp [CoversAfter, h]
  | cons c rest =>
      constructor
      · rintro ⟨rfl, hrest⟩
        exact ⟨rest, rfl, hrest⟩
      · rintro ⟨more, heq, hmore⟩
        obtain ⟨rfl, rfl⟩ := List.cons.inj heq
        exact ⟨rfl, hmore⟩

theorem covers_literal_nil_split_iff {segments : List Segment} {text : List Char} :
    Covers (.literal [] :: segments) (Label.split text) ↔ CoversAfter segments text := by
  cases text with
  | nil => simp [Label.split, covers_literal_cons_iff, CoversAfter]
  | cons c rest =>
      by_cases hc : c = '.'
      · simp [Label.split, hc, covers_literal_cons_iff, CoversAfter]
      · obtain ⟨first, labels, hsplit⟩ := List.exists_cons_of_ne_nil (Label.split_ne_nil rest)
        simp [Label.split, hc, hsplit, Label.consHead, covers_literal_cons_iff, CoversAfter]

/-- A literal as segments of one label each; it may hold dots of its own. A wildcard stays. -/
def spread : Segment → List Segment
  | .literal text => (Label.split text).map .literal
  | .wildcard => [.wildcard]

theorem spread_of_no_dot {label : Label} (h : '.' ∉ label) :
    spread (.literal label) = [.literal label] := by
  rw [spread, Label.split_of_no_dot h]
  rfl

theorem not_covers_spread_literal_nil {text : List Char} {segments : List Segment} :
    ¬ Covers (spread (.literal text) ++ segments) [] := by
  obtain ⟨first, labels, hsplit⟩ := List.exists_cons_of_ne_nil (Label.split_ne_nil text)
  rw [spread, hsplit]
  exact not_covers_literal_nil

theorem covers_spread_literal_iff {literal : List Char} {segments : List Segment}
    {text : List Char} :
    Covers (spread (.literal literal) ++ segments) (Label.split text) ↔
      ∃ rest, text = literal ++ rest ∧ CoversAfter segments rest := by
  induction literal generalizing text with
  | nil =>
      simp only [spread, Label.split, List.map_cons, List.map_nil, List.cons_append,
        List.nil_append, covers_literal_nil_split_iff]
      constructor
      · intro h
        exact ⟨text, rfl, h⟩
      · rintro ⟨rest, rfl, h⟩
        exact h
  | cons c literal ih =>
      by_cases hc : c = '.'
      · subst hc
        have hspread : spread (.literal ('.' :: literal)) =
            .literal [] :: spread (.literal literal) := by
          simp [spread, Label.split]
        rw [hspread, List.cons_append, covers_literal_nil_split_iff,
          coversAfter_iff_of_not_nil not_covers_spread_literal_nil]
        simp only [ih]
        constructor
        · rintro ⟨_, rfl, rest, rfl, h⟩
          exact ⟨rest, rfl, h⟩
        · rintro ⟨rest, rfl, h⟩
          exact ⟨literal ++ rest, rfl, rest, rfl, h⟩
      · obtain ⟨first, labels, hsplit⟩ := List.exists_cons_of_ne_nil (Label.split_ne_nil literal)
        have hspread : spread (.literal (c :: literal)) =
            .literal (c :: first) :: labels.map .literal := by
          simp [spread, Label.split, hc, hsplit, Label.consHead]
        rw [hspread]
        cases text with
        | nil => simp [Label.split, covers_literal_cons_iff]
        | cons d text =>
            by_cases hd : d = '.'
            · simp [Label.split, hd, covers_literal_cons_iff, Ne.symm hc]
            · obtain ⟨head, tail, hsplit'⟩ := List.exists_cons_of_ne_nil (Label.split_ne_nil text)
              have hrest := @ih text
              simp only [spread, hsplit, List.map_cons, List.cons_append, hsplit',
                covers_literal_cons_iff] at hrest
              simp only [Label.split, hd, if_false, hsplit', Label.consHead, List.cons_append,
                covers_literal_cons_iff, List.cons.injEq]
              rw [and_assoc, hrest]
              simp only [and_assoc, eq_comm, exists_and_left]

/-- A rest of a text that begins where one of its labels does. -/
def LabelStart (text rest : List Char) : Prop :=
  rest = text ∨ ∃ run, text = run ++ '.' :: rest

theorem exists_labelStart_of_split {text : List Char} {run labels : List Label}
    (hne : labels ≠ []) (h : Label.split text = run ++ labels) :
    ∃ rest, LabelStart text rest ∧ Label.split rest = labels := by
  have htext : Label.join (run ++ labels) = text := by rw [← h, Label.join_split]
  have hdot : ∀ label ∈ run ++ labels, '.' ∉ label := by
    intro label hmem
    rw [← h] at hmem
    exact Label.no_dot_of_mem_split hmem
  have hsplit : Label.split (Label.join labels) = labels :=
    Label.split_join hne fun label hmem => hdot label (by simp [hmem])
  refine ⟨Label.join labels, ?_, hsplit⟩
  rw [← htext]
  -- The induction shortens the run only, so nothing may be left that is said of all labels.
  clear h htext hdot hsplit
  induction run with
  | nil => exact Or.inl rfl
  | cons label run ih =>
      have hrun : run ++ labels ≠ [] := by simp [hne]
      rw [List.cons_append, Label.join_cons label hrun]
      rcases ih with heq | ⟨more, heq⟩
      · exact Or.inr ⟨label, by rw [← heq]⟩
      · exact Or.inr ⟨label ++ '.' :: more, by rw [heq]; simp⟩

theorem exists_split_of_labelStart {text rest : List Char} (h : LabelStart text rest) :
    ∃ run, Label.split text = run ++ Label.split rest := by
  rcases h with rfl | ⟨run, rfl⟩
  · exact ⟨[], rfl⟩
  · exact ⟨Label.split run, Label.split_append_dot_append run rest⟩

theorem covers_wildcard_split_iff {segments : List Segment} (hne : segments ≠ [])
    {text : List Char} :
    Covers (.wildcard :: segments) (Label.split text) ↔
      ∃ rest, LabelStart text rest ∧ Covers segments (Label.split rest) := by
  rw [covers_wildcard_iff]
  constructor
  · rintro ⟨run, labels, hsplit, h⟩
    by_cases hlabels : labels = []
    · subst hlabels
      exact ⟨text, Or.inl rfl, covers_of_covers_nil hne h _⟩
    · obtain ⟨rest, hstart, rfl⟩ := exists_labelStart_of_split hlabels hsplit
      exact ⟨rest, hstart, h⟩
  · rintro ⟨rest, hstart, h⟩
    obtain ⟨run, hsplit⟩ := exists_split_of_labelStart hstart
    exact ⟨run, Label.split rest, hsplit, h⟩

end CleanupRules.Proofs.LabelGlob
