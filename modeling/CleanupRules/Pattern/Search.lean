import CleanupRules.Pattern.Basic

/-!
Searching a text for a pattern. All offsets that a pattern can reach are carried along at once, so
the work is bounded by the length of the text times the size of the pattern. The main statement is
`occursIn_eq_true_iff`.
-/

namespace CleanupRules.Pattern

/-- The union of two lists of offsets. If both increase, so does the union, and none is in it
twice. -/
def union : List Nat → List Nat → List Nat
  | [], others => others
  | i :: offsets, others =>
      others.takeWhile (· < i) ++
        i :: union offsets ((others.dropWhile (· < i)).dropWhile (· == i))

/-- All offsets from the least of the given ones to the end of the text. -/
def onwards (length : Nat) (offsets : List Nat) : List Nat :=
  match offsets.min? with
  | none => []
  | some i => List.range' i (length + 1 - i)

mutual

/-- The offsets that the pattern reaches from the given ones. -/
def reach (text : Array Char) : Pattern → List Nat → List Nat
  | .only branch, offsets => branch.reach text offsets
  | .either branch others, offsets =>
      union (branch.reach text offsets) (others.reach text offsets)

/-- The offsets that the branch reaches from the given ones. -/
def Branch.reach (text : Array Char) : Branch → List Nat → List Nat
  | .done, offsets => offsets
  | .char c rest, offsets =>
      rest.reach text ((offsets.filter fun i => text[i]? == some c).map (· + 1))
  | .start rest, offsets => rest.reach text (offsets.filter (· == 0))
  | .finish rest, offsets => rest.reach text (offsets.filter (· == text.size))
  | .anything rest, offsets => rest.reach text (onwards text.size offsets)
  | .group body optional rest, offsets =>
      let reached := body.reach text offsets
      rest.reach text (if optional then union offsets reached else reached)

end

/-- Does the pattern describe some stretch of the text? -/
def occursIn (pattern : Pattern) (text : List Char) : Bool :=
  !(pattern.reach text.toArray (List.range (text.length + 1))).isEmpty

theorem mem_union {offsets others : List Nat} {k : Nat} :
    k ∈ union offsets others ↔ k ∈ offsets ∨ k ∈ others := by
  induction offsets generalizing others with
  | nil => simp [union]
  | cons i offsets ih =>
      have hsplit : k ∈ others ↔
          k ∈ others.takeWhile (· < i) ∨ k ∈ others.dropWhile (· < i) := by
        rw [← List.mem_append, List.takeWhile_append_dropWhile]
      have hdrop : ∀ rest : List Nat, k = i ∨ k ∈ rest ↔ k = i ∨ k ∈ rest.dropWhile (· == i) := by
        intro rest
        induction rest with
        | nil => simp
        | cons j rest ihr =>
            by_cases hj : j = i
            · subst hj
              simp [← ihr]
            · simp [hj]
      simp only [union, List.mem_append, List.mem_cons, ih]
      constructor
      · rintro (h | rfl | h | h)
        · exact Or.inr (hsplit.mpr (Or.inl h))
        · exact Or.inl (Or.inl rfl)
        · exact Or.inl (Or.inr h)
        · exact Or.inr (hsplit.mpr (Or.inr ((List.dropWhile_suffix _).subset h)))
      · rintro ((rfl | h) | h)
        · exact Or.inr (Or.inl rfl)
        · exact Or.inr (Or.inr (Or.inl h))
        · rcases hsplit.mp h with h | h
          · exact Or.inl h
          · rcases (hdrop _).mp (Or.inr h) with rfl | h
            · exact Or.inr (Or.inl rfl)
            · exact Or.inr (Or.inr (Or.inr h))

theorem mem_onwards {length k : Nat} {offsets : List Nat} :
    k ∈ onwards length offsets ↔ ∃ i ∈ offsets, i ≤ k ∧ k ≤ length := by
  unfold onwards
  cases h : offsets.min? with
  | none =>
      have : offsets = [] := List.min?_eq_none_iff.mp h
      simp [this]
  | some least =>
      obtain ⟨hmem, hle⟩ := List.min?_eq_some_iff.mp h
      simp only [List.mem_range'_1]
      constructor
      · intro hk
        exact ⟨least, hmem, by omega, by omega⟩
      · rintro ⟨i, hi, hik, hk⟩
        have := hle i hi
        omega

mutual

theorem mem_reach (text : List Char) (pattern : Pattern) (offsets : List Nat) (j : Nat) :
    j ∈ pattern.reach text.toArray offsets ↔ ∃ i ∈ offsets, pattern.Reaches text i j := by
  cases pattern with
  | only branch => simpa [reach, Reaches] using Branch.mem_reach text branch offsets j
  | either branch others =>
      simp only [reach, Reaches, mem_union, Branch.mem_reach text branch offsets j,
        mem_reach text others offsets j]
      constructor
      · rintro (⟨i, hi, h⟩ | ⟨i, hi, h⟩)
        · exact ⟨i, hi, Or.inl h⟩
        · exact ⟨i, hi, Or.inr h⟩
      · rintro ⟨i, hi, h | h⟩
        · exact Or.inl ⟨i, hi, h⟩
        · exact Or.inr ⟨i, hi, h⟩

theorem Branch.mem_reach (text : List Char) (branch : Branch) (offsets : List Nat) (j : Nat) :
    j ∈ branch.reach text.toArray offsets ↔ ∃ i ∈ offsets, branch.Reaches text i j := by
  cases branch with
  | done => simp [Branch.reach, Branch.Reaches]
  | char c rest =>
      simp only [Branch.reach, Branch.Reaches, Branch.mem_reach text rest]
      simp only [List.mem_map, List.mem_filter, List.getElem?_toArray, beq_iff_eq]
      constructor
      · rintro ⟨_, ⟨i, ⟨hi, hc⟩, rfl⟩, h⟩
        exact ⟨i, hi, hc, h⟩
      · rintro ⟨i, hi, hc, h⟩
        exact ⟨i + 1, ⟨i, ⟨hi, hc⟩, rfl⟩, h⟩
  | start rest =>
      simp only [Branch.reach, Branch.Reaches, Branch.mem_reach text rest, List.mem_filter,
        beq_iff_eq, and_assoc]
  | finish rest =>
      simp only [Branch.reach, Branch.Reaches, Branch.mem_reach text rest, List.mem_filter,
        beq_iff_eq, List.size_toArray, and_assoc]
  | anything rest =>
      simp only [Branch.reach, Branch.Reaches, Branch.mem_reach text rest, mem_onwards,
        List.size_toArray]
      constructor
      · rintro ⟨k, ⟨i, hi, hik, hk⟩, h⟩
        exact ⟨i, hi, k, hik, hk, h⟩
      · rintro ⟨i, hi, k, hik, hk, h⟩
        exact ⟨k, ⟨i, hi, hik, hk⟩, h⟩
  | group body optional rest =>
      simp only [Branch.reach, Branch.Reaches, Branch.mem_reach text rest]
      have hbody := mem_reach text body offsets
      have hmem : ∀ k, k ∈ (if optional = true then
            union offsets (body.reach text.toArray offsets)
          else body.reach text.toArray offsets) ↔
          ∃ i ∈ offsets, body.Reaches text i k ∨ optional = true ∧ i = k := by
        intro k
        cases optional with
        | false => simp [hbody]
        | true =>
            simp only [if_true, mem_union, hbody, true_and]
            constructor
            · rintro (h | ⟨i, hi, h⟩)
              · exact ⟨k, h, Or.inr rfl⟩
              · exact ⟨i, hi, Or.inl h⟩
            · rintro ⟨i, hi, h | rfl⟩
              · exact Or.inr ⟨i, hi, h⟩
              · exact Or.inl hi
      constructor
      · rintro ⟨k, hk, h⟩
        obtain ⟨i, hi, hik⟩ := (hmem k).mp hk
        exact ⟨i, hi, k, hik, h⟩
      · rintro ⟨i, hi, k, hik, h⟩
        exact ⟨k, (hmem k).mpr ⟨i, hi, hik⟩, h⟩

end

theorem occursIn_eq_true_iff (pattern : Pattern) (text : List Char) :
    pattern.occursIn text = true ↔ pattern.OccursIn text := by
  rw [occursIn, OccursIn]
  constructor
  · intro h
    obtain ⟨j, hj⟩ := List.exists_mem_of_ne_nil _ (by simpa using h)
    obtain ⟨i, hi, hij⟩ := (mem_reach text pattern _ j).mp hj
    exact ⟨i, j, by have := List.mem_range.mp hi; omega, hij⟩
  · rintro ⟨i, j, hi, hij⟩
    have hj := (mem_reach text pattern (List.range (text.length + 1)) j).mpr
      ⟨i, List.mem_range.mpr (by omega), hij⟩
    simpa using List.ne_nil_of_mem hj

end CleanupRules.Pattern
