import CleanupRules.Rule.Basic

/-!
What segments mean: `Segment.Covers` relates them to the labels of the hosts that they describe.
Neighbouring wildcards mean what one of them means, by `covers_collapse`.
-/

namespace CleanupRules.Segment

/-- The segments describe these labels: a literal its own label, a wildcard any number of labels. -/
inductive Covers : List Segment → List Label → Prop
  | nil : Covers [] []
  | literal {label : Label} {segments : List Segment} {labels : List Label} :
      Covers segments labels → Covers (.literal label :: segments) (label :: labels)
  /-- The wildcard stands for no further label. -/
  | leave {segments : List Segment} {labels : List Label} :
      Covers segments labels → Covers (.wildcard :: segments) labels
  /-- The wildcard stands for one more label. -/
  | take {label : Label} {segments : List Segment} {labels : List Label} :
      Covers (.wildcard :: segments) labels → Covers (.wildcard :: segments) (label :: labels)

theorem covers_literal_iff {label : Label} {segments : List Segment} {labels : List Label} :
    Covers (.literal label :: segments) labels ↔
      ∃ rest, labels = label :: rest ∧ Covers segments rest := by
  constructor
  · intro h
    cases h with
    | literal h => exact ⟨_, rfl, h⟩
  · rintro ⟨rest, rfl, h⟩
    exact .literal h

theorem covers_wildcard_iff {segments : List Segment} {labels : List Label} :
    Covers (.wildcard :: segments) labels ↔
      ∃ run rest, labels = run ++ rest ∧ Covers segments rest := by
  constructor
  · intro h
    induction labels with
    | nil =>
        cases h with
        | leave h => exact ⟨[], [], rfl, h⟩
    | cons label labels ih =>
        cases h with
        | leave h => exact ⟨[], label :: labels, rfl, h⟩
        | take h =>
            obtain ⟨run, rest, rfl, hrest⟩ := ih h
            exact ⟨label :: run, rest, rfl, hrest⟩
  · rintro ⟨run, rest, rfl, h⟩
    induction run with
    | nil => exact .leave h
    | cons label run ih => exact .take ih

theorem covers_wildcard_wildcard_iff {segments : List Segment} {labels : List Label} :
    Covers (.wildcard :: .wildcard :: segments) labels ↔ Covers (.wildcard :: segments) labels := by
  constructor
  · intro h
    obtain ⟨run, rest, rfl, hrest⟩ := covers_wildcard_iff.mp h
    obtain ⟨run', rest', rfl, hrest'⟩ := covers_wildcard_iff.mp hrest
    exact covers_wildcard_iff.mpr ⟨run ++ run', rest', by simp, hrest'⟩
  · exact .leave

theorem covers_nil_iff {labels : List Label} : Covers [] labels ↔ labels = [] := by
  constructor
  · intro h
    cases h
    rfl
  · rintro rfl
    exact .nil

theorem not_covers_literal_nil {label : Label} {segments : List Segment} :
    ¬ Covers (.literal label :: segments) [] := by
  rw [covers_literal_iff]
  rintro ⟨rest, h, _⟩
  contradiction

theorem covers_wildcard_nil_iff {segments : List Segment} :
    Covers (.wildcard :: segments) [] ↔ Covers segments [] := by
  constructor
  · intro h
    cases h with
    | leave h => exact h
  · exact .leave

theorem covers_literal_cons_iff {label first : Label} {segments : List Segment}
    {labels : List Label} :
    Covers (.literal label :: segments) (first :: labels) ↔
      label = first ∧ Covers segments labels := by
  rw [covers_literal_iff]
  constructor
  · rintro ⟨rest, heq, h⟩
    obtain ⟨rfl, rfl⟩ := List.cons.inj heq
    exact ⟨rfl, h⟩
  · rintro ⟨rfl, h⟩
    exact ⟨labels, rfl, h⟩

theorem covers_append_iff {front back : List Segment} {labels : List Label} :
    Covers (front ++ back) labels ↔
      ∃ run rest, labels = run ++ rest ∧ Covers front run ∧ Covers back rest := by
  induction front generalizing labels with
  | nil =>
      constructor
      · intro h
        exact ⟨[], labels, rfl, .nil, h⟩
      · rintro ⟨run, rest, rfl, hrun, hrest⟩
        rw [covers_nil_iff.mp hrun]
        exact hrest
  | cons segment front ih =>
      cases segment with
      | literal label =>
          rw [List.cons_append, covers_literal_iff]
          constructor
          · rintro ⟨more, rfl, h⟩
            obtain ⟨run, rest, rfl, hrun, hrest⟩ := ih.mp h
            exact ⟨label :: run, rest, rfl, .literal hrun, hrest⟩
          · rintro ⟨run, rest, rfl, hrun, hrest⟩
            obtain ⟨more, rfl, hmore⟩ := covers_literal_iff.mp hrun
            exact ⟨more ++ rest, rfl, ih.mpr ⟨more, rest, rfl, hmore, hrest⟩⟩
      | wildcard =>
          rw [List.cons_append, covers_wildcard_iff]
          constructor
          · rintro ⟨skipped, more, rfl, h⟩
            obtain ⟨run, rest, rfl, hrun, hrest⟩ := ih.mp h
            refine ⟨skipped ++ run, rest, by simp, ?_, hrest⟩
            exact covers_wildcard_iff.mpr ⟨skipped, run, rfl, hrun⟩
          · rintro ⟨run, rest, rfl, hrun, hrest⟩
            obtain ⟨skipped, more, rfl, hmore⟩ := covers_wildcard_iff.mp hrun
            exact ⟨skipped, more ++ rest, by simp, ih.mpr ⟨more, rest, rfl, hmore, hrest⟩⟩

theorem mem_of_covers_literal {segments : List Segment} {labels : List Label} {label : Label}
    (h : Covers segments labels) (hmem : .literal label ∈ segments) : label ∈ labels := by
  induction h with
  | nil => contradiction
  | literal _ ih =>
      rcases List.mem_cons.mp hmem with heq | hmem
      · simp [Segment.literal.inj heq]
      · exact List.mem_cons_of_mem _ (ih hmem)
  | leave _ ih =>
      rcases List.mem_cons.mp hmem with heq | hmem
      · contradiction
      · exact ih hmem
  | take _ ih => exact List.mem_cons_of_mem _ (ih hmem)

theorem covers_of_covers_nil {segments : List Segment} (hne : segments ≠ [])
    (h : Covers segments []) (labels : List Label) : Covers segments labels := by
  cases segments with
  | nil => exact absurd rfl hne
  | cons segment segments =>
      cases segment with
      | literal label => exact absurd h not_covers_literal_nil
      | wildcard =>
          induction labels with
          | nil => exact h
          | cons label labels ih => exact .take ih

theorem covers_only_wildcard (labels : List Label) : Covers [.wildcard] labels :=
  covers_of_covers_nil (by simp) (.leave .nil) labels

/-- Neighbouring wildcards may be collapsed before each literal is turned into segments of its
own. -/
theorem covers_flatMap_collapse_iff {expand : Segment → List Segment}
    (hexpand : expand .wildcard = [.wildcard]) {segments back : List Segment}
    {labels : List Label} :
    Covers ((collapse segments).flatMap expand ++ back) labels ↔
      Covers (segments.flatMap expand ++ back) labels := by
  induction segments generalizing labels with
  | nil => rfl
  | cons segment segments ih =>
      cases segment with
      | literal label =>
          simp only [collapse, List.flatMap_cons, List.append_assoc]
          rw [covers_append_iff, covers_append_iff]
          simp only [ih]
      | wildcard =>
          have hcons : Covers (.wildcard :: ((collapse segments).flatMap expand ++ back)) labels ↔
              Covers (.wildcard :: (segments.flatMap expand ++ back)) labels := by
            simp only [covers_wildcard_iff, ih]
          rw [List.flatMap_cons, hexpand, List.singleton_append, List.cons_append, ← hcons, collapse]
          split
          · rename_i more heq
            rw [heq, List.flatMap_cons, hexpand, List.singleton_append, List.cons_append,
              covers_wildcard_wildcard_iff]
          · rw [List.flatMap_cons, hexpand, List.singleton_append, List.cons_append]

theorem covers_collapse {segments : List Segment} {labels : List Label} :
    Covers (collapse segments) labels ↔ Covers segments labels := by
  have h := @covers_flatMap_collapse_iff (fun segment => [segment]) rfl segments [] labels
  simpa using h

end CleanupRules.Segment
