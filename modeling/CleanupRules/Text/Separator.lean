/-!
Splitting a text at its last separator.
-/

namespace CleanupRules.Text

/-- What stands before and after the last `sep`. -/
def splitLast? (sep : Char) : List Char → Option (List Char × List Char)
  | [] => none
  | c :: rest =>
      match splitLast? sep rest with
      | some (before, after) => some (c :: before, after)
      | none => if c = sep then some ([], rest) else none

theorem splitLast?_eq_none_iff {sep : Char} {text : List Char} :
    splitLast? sep text = none ↔ sep ∉ text := by
  induction text with
  | nil => simp [splitLast?]
  | cons c rest ih =>
      simp only [splitLast?, List.mem_cons, not_or]
      cases h : splitLast? sep rest with
      | some parts =>
          have : sep ∈ rest := by
            by_cases hmem : sep ∈ rest
            · exact hmem
            · simp [ih.mpr hmem] at h
          simp [this]
      | none =>
          have hrest := ih.mp h
          by_cases hc : c = sep
          · simp [hc]
          · simp [hc, hrest, Ne.symm hc]

theorem splitLast?_append {sep : Char} {after : List Char} (h : sep ∉ after)
    (before : List Char) : splitLast? sep (before ++ sep :: after) = some (before, after) := by
  induction before with
  | nil => simp [splitLast?, splitLast?_eq_none_iff.mpr h]
  | cons c before ih => rw [List.cons_append, splitLast?, ih]

theorem splitLast?_eq_some_iff {sep : Char} {text before after : List Char} :
    splitLast? sep text = some (before, after) ↔
      text = before ++ sep :: after ∧ sep ∉ after := by
  constructor
  · intro h
    induction text generalizing before with
    | nil => contradiction
    | cons c rest ih =>
        rw [splitLast?] at h
        split at h
        · rename_i front back hrest
          obtain ⟨rfl, rfl⟩ := Prod.mk.inj (Option.some.inj h)
          obtain ⟨rfl, hafter⟩ := ih hrest
          exact ⟨rfl, hafter⟩
        · rename_i hnone
          split at h
          · rename_i hc
            obtain ⟨rfl, rfl⟩ := Prod.mk.inj (Option.some.inj h)
            exact ⟨by rw [hc]; rfl, splitLast?_eq_none_iff.mp hnone⟩
          · contradiction
  · rintro ⟨rfl, hafter⟩
    exact splitLast?_append hafter before

end CleanupRules.Text
