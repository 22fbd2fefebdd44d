import CleanupRules.RuleSet.Basic

/-!
The rule that decides. While the entries are passed one by one, the best one so far is the first of
the most protective ones that have been seen; so the decision is said of all matching entries at
once.
-/

namespace CleanupRules.Proofs.StrongestRule

/-- The entries before it protect less, and those behind it no more. -/
def FirstStrongest (entries : List (Entry × Nat)) (best : Entry × Nat) : Prop :=
  ∃ before after, entries = before ++ best :: after ∧
    (∀ entry ∈ before, entry.1.cleanup.protection < best.1.cleanup.protection) ∧
    ∀ entry ∈ after, entry.1.cleanup.protection ≤ best.1.cleanup.protection

theorem firstStrongest_better {seen : List (Entry × Nat)} {best : Entry × Nat}
    (h : FirstStrongest seen best) (next : Entry × Nat) :
    ∃ result, RuleSet.better (some best) next = some result ∧
      FirstStrongest (seen ++ [next]) result := by
  obtain ⟨before, after, rfl, hbefore, hafter⟩ := h
  rw [RuleSet.better]
  split
  · rename_i hle
    rw [Cleanup.le_iff] at hle
    refine ⟨best, rfl, before, after ++ [next], by simp, hbefore, ?_⟩
    intro entry hentry
    rcases List.mem_append.mp hentry with hentry | hentry
    · exact hafter entry hentry
    · rw [List.mem_singleton.mp hentry]
      exact hle
  · rename_i hlt
    rw [Cleanup.le_iff] at hlt
    refine ⟨next, rfl, before ++ best :: after, [], by simp, ?_, by simp⟩
    intro entry hentry
    rcases List.mem_append.mp hentry with hentry | hentry
    · have := hbefore entry hentry
      omega
    rcases List.mem_cons.mp hentry with rfl | hentry
    · omega
    · have := hafter entry hentry
      omega

theorem firstStrongest_foldl (more : List (Entry × Nat)) {seen : List (Entry × Nat)}
    {best : Entry × Nat} (h : FirstStrongest seen best) :
    ∃ result, more.foldl RuleSet.better (some best) = some result ∧
      FirstStrongest (seen ++ more) result := by
  induction more generalizing seen best with
  | nil => exact ⟨best, rfl, by simpa using h⟩
  | cons next more ih =>
      obtain ⟨better, hbetter, hseen⟩ := firstStrongest_better h next
      obtain ⟨result, hresult, hall⟩ := ih hseen
      refine ⟨result, ?_, by simpa using hall⟩
      rw [List.foldl_cons, hbetter, hresult]

theorem exists_strongest {entries : List (Entry × Nat)} (hne : entries ≠ []) :
    ∃ best, RuleSet.strongest entries = some best ∧ FirstStrongest entries best := by
  obtain ⟨first, more, rfl⟩ := List.exists_cons_of_ne_nil hne
  exact firstStrongest_foldl more ⟨[], [], rfl, by simp, by simp⟩

variable (set : RuleSet) (host : Host)

theorem getElem?_of_mem_accepting {entry : Entry} {index : Nat}
    (h : (entry, index) ∈ set.accepting host) : set.entries[index]? = some entry :=
  List.mk_mem_zipIdx_iff_getElem?.mp (List.mem_filter.mp h).1

theorem matchingEntries_eq_filter :
    set.matchingEntries host =
      set.entries.filter fun entry => entry.matcher.test (Host.normalize host) := by
  have hmap := @List.filter_map _ _ Prod.fst
    (fun entry : Entry => entry.matcher.test (Host.normalize host)) set.entries.zipIdx
  rw [List.zipIdx_map_fst] at hmap
  exact hmap.symm

theorem matched_decide : (set.decide host).matched = (set.matchingEntries host).length := by
  have hlength : (set.matchingEntries host).length = (set.accepting host).length := by
    simp [RuleSet.matchingEntries]
  rw [RuleSet.decide, hlength]
  split <;> rfl

theorem decide_of_no_match (h : set.matchingEntries host = []) :
    set.decide host = ⟨set.fallback, none, 0⟩ := by
  have haccepting : set.accepting host = [] := List.map_eq_nil_iff.mp h
  simp [RuleSet.decide, haccepting, RuleSet.strongest]

/-- What decides when an entry matches: an entry, with its position, that is the first of the most
protective ones. -/
theorem exists_deciding_entry (h : set.matchingEntries host ≠ []) :
    ∃ entry index, FirstStrongest (set.accepting host) (entry, index) ∧
      set.entries[index]? = some entry ∧ (set.decide host).ruleIndex = some index ∧
      (set.decide host).cleanup = entry.cleanup := by
  have haccepting : set.accepting host ≠ [] := fun hnil => h (by simp [RuleSet.matchingEntries, hnil])
  obtain ⟨⟨entry, index⟩, hstrongest, hfirst⟩ := exists_strongest haccepting
  have hmem : (entry, index) ∈ set.accepting host := by
    obtain ⟨before, after, heq, -⟩ := hfirst
    rw [heq]
    simp
  refine ⟨entry, index, hfirst, getElem?_of_mem_accepting set host hmem, ?_⟩
  simp [RuleSet.decide, hstrongest]

theorem index_lt_of_decide {index : Nat} (h : (set.decide host).ruleIndex = some index) :
    index < set.entries.length := by
  by_cases hnil : set.matchingEntries host = []
  · rw [decide_of_no_match set host hnil] at h
    contradiction
  · obtain ⟨entry, position, -, hget, hposition, -⟩ := exists_deciding_entry set host hnil
    rw [hposition, Option.some.injEq] at h
    rw [← h]
    exact (List.getElem?_eq_some_iff.mp hget).1

theorem deciding_entry_eq_find (h : set.matchingEntries host ≠ []) :
    ∃ entry, (set.decide host).ruleIndex.bind (set.entries[·]?) = some entry ∧
      (set.decide host).cleanup = entry.cleanup ∧
      (set.matchingEntries host).find? (fun other => other.cleanup = entry.cleanup) = some entry ∧
      ∀ other ∈ set.matchingEntries host,
        other.cleanup.protection ≤ entry.cleanup.protection := by
  obtain ⟨entry, index, ⟨before, after, heq, hbefore, hafter⟩, hget, hindex, hcleanup⟩ :=
    exists_deciding_entry set host h
  have hmatching : set.matchingEntries host = before.map Prod.fst ++ entry :: after.map Prod.fst := by
    rw [RuleSet.matchingEntries, heq]
    simp
  refine ⟨entry, by simpa [hindex] using hget, hcleanup, ?_, ?_⟩
  · have hskip : (before.map Prod.fst).find? (fun other => other.cleanup = entry.cleanup) = none := by
      rw [List.find?_eq_none]
      intro other hother
      obtain ⟨pair, hpair, rfl⟩ := List.mem_map.mp hother
      have hlt := hbefore pair hpair
      intro heq
      rw [of_decide_eq_true heq] at hlt
      exact Nat.lt_irrefl _ hlt
    rw [hmatching, List.find?_append, hskip]
    simp
  · rw [hmatching]
    intro other hother
    rcases List.mem_append.mp hother with hother | hother
    · obtain ⟨pair, hpair, rfl⟩ := List.mem_map.mp hother
      exact Nat.le_of_lt (hbefore pair hpair)
    rcases List.mem_cons.mp hother with rfl | hother
    · exact Nat.le_refl _
    · obtain ⟨pair, hpair, rfl⟩ := List.mem_map.mp hother
      exact hafter pair hpair

theorem cleanup_decide_of_mem_iff {set other : RuleSet} (host : Host)
    (hentries : ∀ entry, entry ∈ set.matchingEntries host ↔ entry ∈ other.matchingEntries host)
    (hfallback : set.fallback = other.fallback) :
    (set.decide host).cleanup = (other.decide host).cleanup := by
  by_cases hnil : set.matchingEntries host = []
  · have hnil' : other.matchingEntries host = [] := by
      rw [List.eq_nil_iff_forall_not_mem] at hnil ⊢
      intro entry
      rw [← hentries]
      exact hnil entry
    rw [decide_of_no_match set host hnil, decide_of_no_match other host hnil']
    exact hfallback
  · have hnil' : other.matchingEntries host ≠ [] := by
      obtain ⟨entry, hentry⟩ := List.exists_mem_of_ne_nil _ hnil
      exact List.ne_nil_of_mem ((hentries entry).mp hentry)
    obtain ⟨entry, -, hcleanup, hfind, hmax⟩ := deciding_entry_eq_find set host hnil
    obtain ⟨entry', -, hcleanup', hfind', hmax'⟩ := deciding_entry_eq_find other host hnil'
    have hmem := (hentries entry).mp (List.mem_of_find?_eq_some hfind)
    have hmem' := (hentries entry').mpr (List.mem_of_find?_eq_some hfind')
    rw [hcleanup, hcleanup']
    exact Cleanup.protection_injective (Nat.le_antisymm (hmax' entry hmem) (hmax entry' hmem'))

theorem decide_of_perm {set other : RuleSet} (host : Host)
    (hentries : set.entries.Perm other.entries) (hfallback : set.fallback = other.fallback) :
    (set.decide host).cleanup = (other.decide host).cleanup ∧
      (set.decide host).matched = (other.decide host).matched := by
  have hperm : (set.matchingEntries host).Perm (other.matchingEntries host) := by
    rw [matchingEntries_eq_filter, matchingEntries_eq_filter]
    exact hentries.filter _
  refine ⟨cleanup_decide_of_mem_iff host (fun _ => hperm.mem_iff) hfallback, ?_⟩
  rw [matched_decide, matched_decide, hperm.length_eq]

end CleanupRules.Proofs.StrongestRule
