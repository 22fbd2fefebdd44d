import CleanupRules.Proofs.CompiledRules
import CleanupRules.Rule.Lint

/-!
Wildcards that the linter calls redundant. Each of them can be deleted, and the rule accepts what it
accepted before; only of the three wildcards of `*.*.*` not one may go alone.
-/

namespace CleanupRules.Proofs.RedundantWildcards

open CompiledRules
open Segment (Covers covers_append_iff covers_wildcard_wildcard_iff)

/-- The rule without one of its labels and a dot beside it. -/
def deleteLabel (index : Nat) (rule : List Char) : List Char :=
  Label.join ((Label.split rule).eraseIdx index)

theorem covers_repeated_wildcard_iff (front back : List Label) (labels : List Label) :
    Covers ((front ++ Label.wildcard :: Label.wildcard :: back).map Segment.ofLabel) labels ↔
      Covers ((front ++ Label.wildcard :: back).map Segment.ofLabel) labels := by
  have hwildcard : Segment.ofLabel Label.wildcard = .wildcard := rfl
  simp only [List.map_append, List.map_cons, hwildcard, covers_append_iff,
    covers_wildcard_wildcard_iff]

theorem split_deleteLabel {rule : List Char} {front back : List Label}
    (h : Label.split rule = front ++ Label.wildcard :: Label.wildcard :: back) :
    Label.split (deleteLabel (front.length + 1) rule) = front ++ Label.wildcard :: back := by
  have herase : (Label.split rule).eraseIdx (front.length + 1) =
      front ++ Label.wildcard :: back := by
    rw [h, List.eraseIdx_append_of_length_le (Nat.le_add_right _ 1), Nat.add_sub_cancel_left]
    rfl
  rw [deleteLabel, herase]
  apply Label.split_join (by simp)
  intro label hlabel
  rw [← herase] at hlabel
  exact Label.no_dot_of_mem_split ((List.eraseIdx_sublist _ _).subset hlabel)

theorem eq_triple_of_append_eq {front back : List Label}
    (h : front ++ Label.wildcard :: back = [Label.wildcard, Label.wildcard]) :
    front ++ Label.wildcard :: Label.wildcard :: back =
      [Label.wildcard, Label.wildcard, Label.wildcard] := by
  match front with
  | [] =>
    obtain rfl := (List.cons.inj h).2
    rfl
  | [first] =>
    obtain ⟨rfl, hrest⟩ := List.cons.inj h
    obtain rfl := (List.cons.inj hrest).2
    rfl
  | first :: second :: front =>
    have hnil := (List.cons.inj (List.cons.inj h).2).2
    simp at hnil

/-- A redundant wildcard can be deleted without changing what the rule accepts, unless that
leaves `*.*`, which is not read label by label. -/
theorem deletes_safely_iff {rule : List Char} {index : Nat}
    (h : Issue.redundantWildcard index ∈ Rule.lint rule) :
    (∀ candidate, (Matcher.compile (deleteLabel index rule)).test candidate =
      (Matcher.compile rule).test candidate) ↔ rule ≠ "*.*.*".toList := by
  constructor
  · rintro hsame rfl
    have hlint : Rule.lint "*.*.*".toList = [.redundantWildcard 1, .redundantWildcard 2] := by
      decide
    rw [hlint] at h
    have hindex : index = 1 ∨ index = 2 := by simpa using h
    rcases hindex with rfl | rfl
    · exact absurd (hsame ['a']) (by decide)
    · exact absurd (hsame ['a']) (by decide)
  · intro htriple candidate
    obtain ⟨hdouble, front, back, hsplit, rfl⟩ := Rule.exists_split_of_redundantWildcard_mem h
    have hdeleted := split_deleteLabel hsplit
    have hdouble' : deleteLabel (front.length + 1) rule ≠ ['*', '.', '*'] := by
      intro heq
      rw [heq] at hdeleted
      apply htriple
      rw [← Label.join_split rule, hsplit, eq_triple_of_append_eq hdeleted.symm]
      rfl
    rw [Bool.eq_iff_iff, test_compile_iff_covers, test_compile_iff_covers,
      ruleLabels_parse hdouble', ruleLabels_parse hdouble, hdeleted, hsplit,
      covers_repeated_wildcard_iff]

theorem deletes_safely_outer :
    Issue.redundantWildcard 1 ∈ Rule.lint "*.*.ads.*.*".toList ∧
      deleteLabel 1 "*.*.ads.*.*".toList = "*.ads.*.*".toList ∧
      ∀ candidate, (Matcher.compile (deleteLabel 1 "*.*.ads.*.*".toList)).test candidate =
        (Matcher.compile "*.*.ads.*.*".toList).test candidate :=
  ⟨by decide, by decide, (deletes_safely_iff (by decide)).mpr (by decide)⟩

/-- The wildcards behind the first one of `*.*.*` cannot be deleted singly. -/
theorem deletes_unsafely_triple :
    Issue.redundantWildcard 1 ∈ Rule.lint "*.*.*".toList ∧
      deleteLabel 1 "*.*.*".toList = "*.*".toList ∧
      (Matcher.compile "*.*.*".toList).test "a".toList = true ∧
      (Matcher.compile (deleteLabel 1 "*.*.*".toList)).test "a".toList = false := by
  decide

end CleanupRules.Proofs.RedundantWildcards
