import Mathlib.Data.Finset.Card
import Mathlib.Data.List.Induction
import CleanupRules.RuleSpec.Tidy

/-!
What tidying keeps of a list of rules. The first of equal rules stays where it is, so whatever is
looked for in the list is found at the same rule as before. Each rule is kept or counted, and
tidying again finds nothing to do.
-/

namespace CleanupRules.Proofs.TidiedRules

open RuleSpec (Thinned different nonempty thin thin_append_singleton tidy tidyCounts trimmed)

section EraseDups

variable {α : Type} [DecidableEq α]

theorem nodup_eraseDups (items : List α) : items.eraseDups.Nodup := by
  match items with
  | [] => exact List.nodup_nil
  | item :: items =>
      rw [List.eraseDups_cons]
      refine List.nodup_cons.mpr ⟨?_, nodup_eraseDups _⟩
      intro hmem
      have hne := (List.mem_filter.mp (List.mem_eraseDups.mp hmem)).2
      simp at hne
termination_by items.length
decreasing_by exact Nat.lt_succ_of_le (List.length_filter_le _ _)

theorem length_eraseDups (items : List α) : items.eraseDups.length = items.toFinset.card := by
  rw [← List.toFinset_card_of_nodup (nodup_eraseDups items)]
  congr 1
  ext item
  simp

theorem filter_eraseDups (keep : α → Bool) (items : List α) :
    items.eraseDups.filter keep = (items.filter keep).eraseDups := by
  match items with
  | [] => rfl
  | item :: items =>
      have hrest := filter_eraseDups keep (items.filter fun other => !other == item)
      rw [List.filter_filter] at hrest
      rw [List.eraseDups_cons]
      by_cases hkeep : keep item = true
      · rw [List.filter_cons_of_pos hkeep, List.filter_cons_of_pos hkeep, List.eraseDups_cons,
          hrest, List.filter_filter]
        congr 3
        funext other
        exact Bool.and_comm _ _
      · rw [List.filter_cons_of_neg hkeep, List.filter_cons_of_neg hkeep, hrest]
        congr 1
        apply List.filter_congr
        intro other _
        by_cases hother : other = item
        · simp [hother, hkeep]
        · simp [hother]
termination_by items.length
decreasing_by exact Nat.lt_succ_of_le (List.length_filter_le _ _)

theorem head?_eraseDups (items : List α) : items.eraseDups.head? = items.head? := by
  cases items with
  | nil => rfl
  | cons item items => rw [List.eraseDups_cons, List.head?_cons, List.head?_cons]

theorem find?_eraseDups (wanted : α → Bool) (items : List α) :
    items.eraseDups.find? wanted = items.find? wanted := by
  rw [← List.head?_filter, filter_eraseDups, head?_eraseDups, List.head?_filter]

theorem eraseDups_eq_nil_iff {items : List α} : items.eraseDups = [] ↔ items = [] := by
  cases items with
  | nil => simp
  | cons item items => simp [List.eraseDups_cons]

end EraseDups

section Thin

variable (keeps : List RuleSpec → RuleSpec → Bool)

theorem length_add (thinned : Thinned) (spec : RuleSpec) :
    (thinned.add keeps spec).kept.length + (thinned.add keeps spec).dropped =
      thinned.kept.length + thinned.dropped + 1 := by
  rw [Thinned.add]
  split
  · simp only [List.length_append, List.length_singleton]
    omega
  · rfl

theorem length_thin (specs : List RuleSpec) :
    (thin keeps specs).kept.length + (thin keeps specs).dropped = specs.length := by
  induction specs using List.reverseRecOn with
  | nil => rfl
  | append_singleton specs spec ih =>
      rw [thin_append_singleton, length_add, ih, List.length_append, List.length_singleton]

theorem thin_of_fixed (keep : RuleSpec → Bool) (specs : List RuleSpec) :
    thin (fun _ => keep) specs = ⟨specs.filter keep, specs.countP fun spec => !keep spec⟩ := by
  induction specs using List.reverseRecOn with
  | nil => rfl
  | append_singleton specs spec ih =>
      rw [thin_append_singleton, ih, Thinned.add, List.filter_append, List.countP_append]
      cases hkeep : keep spec <;> simp [hkeep]

theorem kept_thin_of_not_mem (specs : List RuleSpec) :
    (thin (fun kept spec => spec ∉ kept) specs).kept = specs.eraseDups := by
  induction specs using List.reverseRecOn with
  | nil => rfl
  | append_singleton specs spec ih =>
      rw [thin_append_singleton, Thinned.add, ih, List.eraseDups_append]
      by_cases hmem : spec ∈ specs <;> simp [List.removeAll, List.eraseDups_cons, hmem]

end Thin

theorem kept_nonempty (specs : List RuleSpec) :
    (nonempty specs).kept = (specs.map trimmed).filter (·.rule ≠ []) := by
  rw [nonempty, thin_of_fixed]

theorem dropped_nonempty (specs : List RuleSpec) :
    (nonempty specs).dropped = specs.countP fun spec => Text.trim spec.rule = [] := by
  rw [nonempty, thin_of_fixed]
  dsimp only
  rw [List.countP_map]
  apply List.countP_congr
  intro spec _
  by_cases hempty : Text.trim spec.rule = [] <;> simp [trimmed, hempty]

theorem tidy_eq_eraseDups (specs : List RuleSpec) :
    tidy specs = ((specs.map trimmed).filter (·.rule ≠ [])).eraseDups := by
  rw [tidy, different, kept_thin_of_not_mem, kept_nonempty]

theorem filter_tidy (keep : RuleSpec → Bool) (specs : List RuleSpec) :
    (RuleSpec.tidy specs).filter keep =
      ((specs.filter fun spec => spec.trimmed.rule ≠ [] && keep spec.trimmed).map
        RuleSpec.trimmed).eraseDups := by
  rw [tidy_eq_eraseDups, filter_eraseDups, List.filter_filter, List.filter_map]
  congr 2
  apply List.filter_congr
  intro spec _
  exact Bool.and_comm _ _

section FirstOccurrences

/-- The trimmed rules of a list that are not empty, each once, in the order in which they first
occur. -/
structure FirstOccurrences (specs tidied : List RuleSpec) : Prop where
  mem_iff : ∀ spec, spec ∈ tidied ↔ spec ∈ specs.map trimmed ∧ spec.rule ≠ []
  ordered : tidied.Pairwise fun first second =>
    (specs.map trimmed).idxOf first < (specs.map trimmed).idxOf second

variable {specs tidied : List RuleSpec}

theorem FirstOccurrences.nodup (h : FirstOccurrences specs tidied) : tidied.Nodup := by
  refine h.ordered.imp ?_
  rintro first _ hlt rfl
  exact Nat.lt_irrefl _ hlt

theorem FirstOccurrences.unique {other : List RuleSpec} (h : FirstOccurrences specs tidied)
    (h' : FirstOccurrences specs other) : tidied = other := by
  have hperm : tidied.Perm other := by
    rw [List.perm_ext_iff_of_nodup h.nodup h'.nodup]
    intro spec
    rw [h.mem_iff, h'.mem_iff]
  refine hperm.eq_of_pairwise ?_ h.ordered h'.ordered
  intro first second _ _ hlt hgt
  exact absurd hgt (Nat.lt_asymm hlt)

theorem FirstOccurrences.append_singleton (h : FirstOccurrences specs tidied) (spec : RuleSpec) :
    FirstOccurrences (specs ++ [spec])
      (if spec.trimmed.rule = [] ∨ spec.trimmed ∈ tidied then tidied
        else tidied ++ [spec.trimmed]) := by
  have hplace : ∀ other ∈ tidied,
      ((specs ++ [spec]).map trimmed).idxOf other = (specs.map trimmed).idxOf other := by
    intro other hother
    rw [List.map_append]
    exact List.idxOf_append_of_mem ((h.mem_iff other).mp hother).1
  have hordered : tidied.Pairwise fun first second =>
      ((specs ++ [spec]).map trimmed).idxOf first < ((specs ++ [spec]).map trimmed).idxOf second := by
    refine h.ordered.imp_of_mem ?_
    intro first second hfirst hsecond hlt
    rwa [hplace first hfirst, hplace second hsecond]
  split
  · rename_i hskip
    refine ⟨?_, hordered⟩
    intro other
    rw [h.mem_iff, List.map_append, List.mem_append, or_and_right]
    refine (or_iff_left_of_imp ?_).symm
    rintro ⟨hother, hne⟩
    obtain rfl := List.mem_singleton.mp hother
    exact (h.mem_iff _).mp (hskip.resolve_left hne)
  · rename_i hkeep
    obtain ⟨hne, hnew⟩ := not_or.mp hkeep
    have hfresh : spec.trimmed ∉ specs.map trimmed := fun hmem => hnew ((h.mem_iff _).mpr ⟨hmem, hne⟩)
    refine ⟨?_, List.pairwise_append.mpr ⟨hordered, List.pairwise_singleton _ _, ?_⟩⟩
    · intro other
      rw [List.mem_append, h.mem_iff, List.map_append, List.mem_append, or_and_right]
      refine or_congr_right (iff_self_and.mpr ?_)
      intro hother
      rwa [List.mem_singleton.mp hother]
    · intro first hfirst second hsecond
      obtain rfl := List.mem_singleton.mp hsecond
      rw [hplace first hfirst, List.map_append, List.idxOf_append_of_notMem hfresh]
      exact Nat.lt_add_right _ (List.idxOf_lt_length_iff.mpr ((h.mem_iff first).mp hfirst).1)

theorem tidy_append_singleton (specs : List RuleSpec) (spec : RuleSpec) :
    tidy (specs ++ [spec]) =
      if spec.trimmed.rule = [] ∨ spec.trimmed ∈ tidy specs then tidy specs
      else tidy specs ++ [spec.trimmed] := by
  rw [tidy_eq_eraseDups, tidy_eq_eraseDups, List.map_append, List.filter_append,
    List.eraseDups_append]
  by_cases hempty : spec.trimmed.rule = []
  · simp [hempty, List.removeAll]
  · by_cases hmem : spec.trimmed ∈ specs.map trimmed <;>
      simp [hempty, hmem, List.removeAll, List.eraseDups_cons, -List.mem_map]

theorem firstOccurrences_tidy (specs : List RuleSpec) : FirstOccurrences specs (tidy specs) := by
  induction specs using List.reverseRecOn with
  | nil => exact ⟨fun spec => by simp [tidy, different, nonempty, thin], List.Pairwise.nil⟩
  | append_singleton specs spec ih =>
      rw [tidy_append_singleton]
      exact ih.append_singleton spec

end FirstOccurrences

theorem map_trimmed_tidy (specs : List RuleSpec) : (tidy specs).map trimmed = tidy specs := by
  refine (List.map_congr_left ?_).trans (List.map_id _)
  intro spec hspec
  obtain ⟨given, -, rfl⟩ := List.mem_map.mp (((firstOccurrences_tidy specs).mem_iff spec).mp hspec).1
  simp only [trimmed, Text.trim_trim, id_eq]

theorem firstOccurrences_self (specs : List RuleSpec) :
    FirstOccurrences (tidy specs) (tidy specs) := by
  have htidy := firstOccurrences_tidy specs
  constructor
  · intro spec
    rw [map_trimmed_tidy, iff_self_and]
    intro hspec
    exact ((htidy.mem_iff spec).mp hspec).2
  · rw [map_trimmed_tidy, List.pairwise_iff_getElem]
    intro i j hi hj hlt
    rwa [htidy.nodup.idxOf_getElem, htidy.nodup.idxOf_getElem]

theorem tidy_tidy (specs : List RuleSpec) : tidy (tidy specs) = tidy specs :=
  (firstOccurrences_tidy _).unique (firstOccurrences_self specs)

theorem length_eq_counts (specs : List RuleSpec) :
    specs.length =
      (tidyCounts specs).after + (tidyCounts specs).empty + (tidyCounts specs).repeated := by
  have hnonempty : (nonempty specs).kept.length + (nonempty specs).dropped = specs.length := by
    rw [nonempty, length_thin, List.length_map]
  have hdifferent : (tidy specs).length + (different specs).dropped =
      (nonempty specs).kept.length := length_thin _ _
  change specs.length = (tidy specs).length + (nonempty specs).dropped + (different specs).dropped
  omega

/-- Tidying keeps the first occurrences and nothing else, it counts every rule once, and to tidy
again changes nothing. -/
theorem tidy_keeps_first_occurrences (specs : List RuleSpec) :
    (∀ tidied, tidied = tidy specs ↔ FirstOccurrences specs tidied) ∧
      (tidy specs).Nodup ∧
      (tidyCounts specs).before = specs.length ∧
      (tidyCounts specs).after = (tidy specs).length ∧
      (tidyCounts specs).empty = specs.countP (fun spec => Text.trim spec.rule = []) ∧
      (tidyCounts specs).before =
        (tidyCounts specs).after + (tidyCounts specs).empty + (tidyCounts specs).repeated ∧
      tidy (tidy specs) = tidy specs ∧
      tidyCounts (tidy specs) = ⟨(tidy specs).length, (tidy specs).length, 0, 0⟩ := by
  have htidy := firstOccurrences_tidy specs
  refine ⟨?_, htidy.nodup, rfl, rfl, dropped_nonempty specs, length_eq_counts specs,
    tidy_tidy specs, ?_⟩
  · intro tidied
    constructor
    · rintro rfl
      exact htidy
    · intro h
      exact h.unique htidy
  · have hcounts := length_eq_counts (tidy specs)
    have hafter : (tidyCounts (tidy specs)).after = (tidy specs).length :=
      congrArg List.length (tidy_tidy specs)
    have hempty : (tidyCounts (tidy specs)).empty = 0 := by omega
    have hrepeated : (tidyCounts (tidy specs)).repeated = 0 := by omega
    calc
      tidyCounts (tidy specs) =
          ⟨(tidy specs).length, (tidyCounts (tidy specs)).after, (tidyCounts (tidy specs)).empty,
            (tidyCounts (tidy specs)).repeated⟩ := rfl
      _ = ⟨(tidy specs).length, (tidy specs).length, 0, 0⟩ := by rw [hafter, hempty, hrepeated]

example :
    tidy [⟨" a ".toList, .never⟩, ⟨"a".toList, .never⟩, ⟨"a".toList, .leave⟩, ⟨" ".toList, .leave⟩] =
      [⟨"a".toList, .never⟩, ⟨"a".toList, .leave⟩] := by
  decide

end CleanupRules.Proofs.TidiedRules
