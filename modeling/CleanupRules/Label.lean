/-!
Labels, the parts of a host or rule between its dots. Splitting and joining are inverse to each
other: `join_split`, and `split_join` for labels that hold no dot.
-/

namespace CleanupRules

abbrev Label := List Char

namespace Label

/-- The label that stands for any run of labels in a rule. -/
def wildcard : Label := ['*']

/-- Puts a character in front of the first label. -/
def consHead (c : Char) : List Label → List Label
  | [] => [[c]]
  | label :: labels => (c :: label) :: labels

/-- The labels of a text. There is always one; the empty text has the empty label. -/
def split : List Char → List Label
  | [] => [[]]
  | c :: rest => if c = '.' then [] :: split rest else consHead c (split rest)

def join : List Label → List Char
  | [] => []
  | [label] => label
  | label :: next :: labels => label ++ '.' :: join (next :: labels)

theorem split_ne_nil (text : List Char) : split text ≠ [] := by
  cases text with
  | nil => simp [split]
  | cons c rest =>
      simp only [split]
      split
      · simp
      · cases split rest <;> simp [consHead]

theorem join_cons {labels : List Label} (label : Label) (h : labels ≠ []) :
    join (label :: labels) = label ++ '.' :: join labels := by
  cases labels with
  | nil => exact absurd rfl h
  | cons next labels => rfl

theorem join_consHead (c : Char) {labels : List Label} (h : labels ≠ []) :
    join (consHead c labels) = c :: join labels := by
  match labels with
  | [] => exact absurd rfl h
  | [label] => rfl
  | label :: next :: labels => rfl

@[simp] theorem join_split (text : List Char) : join (split text) = text := by
  induction text with
  | nil => rfl
  | cons c rest ih =>
      simp only [split]
      split
      · rename_i hc
        rw [join_cons _ (split_ne_nil rest), ih, hc]
        rfl
      · rw [join_consHead c (split_ne_nil rest), ih]

theorem split_injective {text other : List Char} (h : split text = split other) :
    text = other := by
  rw [← join_split text, h, join_split]

theorem split_of_no_dot {label : Label} (h : '.' ∉ label) : split label = [label] := by
  induction label with
  | nil => rfl
  | cons c rest ih =>
      simp only [List.mem_cons, not_or] at h
      simp [split, Ne.symm h.1, ih h.2, consHead]

theorem split_append_dot {label : Label} (h : '.' ∉ label) (text : List Char) :
    split (label ++ '.' :: text) = label :: split text := by
  induction label with
  | nil => simp [split]
  | cons c rest ih =>
      simp only [List.mem_cons, not_or] at h
      simp [split, Ne.symm h.1, ih h.2, consHead]

theorem split_append_dot_append (front back : List Char) :
    split (front ++ '.' :: back) = split front ++ split back := by
  induction front with
  | nil => simp [split]
  | cons c rest ih =>
      by_cases hc : c = '.'
      · simp [split, hc, ih]
      · obtain ⟨label, labels, hsplit⟩ := List.exists_cons_of_ne_nil (split_ne_nil rest)
        simp [split, hc, ih, hsplit, consHead]

theorem split_join {labels : List Label} (hne : labels ≠ [])
    (h : ∀ label ∈ labels, '.' ∉ label) : split (join labels) = labels := by
  induction labels with
  | nil => exact absurd rfl hne
  | cons label labels ih =>
      by_cases hl : labels = []
      · subst hl
        exact split_of_no_dot (h label (by simp))
      · rw [join_cons label hl, split_append_dot (h label (by simp)),
          ih hl fun l hmem => h l (by simp [hmem])]

theorem no_dot_of_mem_split {text : List Char} {label : Label} (h : label ∈ split text) :
    '.' ∉ label := by
  induction text generalizing label with
  | nil =>
      simp only [split, List.mem_singleton] at h
      simp [h]
  | cons c rest ih =>
      simp only [split] at h
      split at h
      · rcases List.mem_cons.mp h with rfl | hmem
        · simp
        · exact ih hmem
      · rename_i hc
        cases hs : split rest with
        | nil => exact absurd hs (split_ne_nil rest)
        | cons first labels =>
            rw [hs, consHead] at h
            rcases List.mem_cons.mp h with rfl | hmem
            · have hfirst : '.' ∉ first := ih (by simp [hs])
              simp [hfirst, Ne.symm hc]
            · exact ih (by simp [hs, hmem])

theorem split_join_of_append {text : List Char} {run labels : List Label}
    (h : split text = run ++ labels) (hne : labels ≠ []) : split (join labels) = labels := by
  apply split_join hne
  intro label hlabel
  exact no_dot_of_mem_split (h ▸ List.mem_append_right run hlabel)

theorem join_suffix (run : List Label) {labels : List Label} (hne : labels ≠ []) :
    join labels <:+ join (run ++ labels) := by
  induction run with
  | nil => exact List.suffix_rfl
  | cons label run ih =>
      have hrun : run ++ labels ≠ [] := by simp [hne]
      rw [List.cons_append, join_cons label hrun]
      exact ih.trans ((List.suffix_cons '.' _).trans (List.suffix_append label _))

theorem suffix_of_split_suffix {part text : List Char} (h : split part <:+ split text) :
    part <:+ text := by
  obtain ⟨run, hrun⟩ := h
  rw [← join_split part, ← join_split text, ← hrun]
  exact join_suffix run (split_ne_nil part)

theorem exists_mem_split_iff {text : List Char} {c : Char} :
    (∃ label ∈ split text, c ∈ label) ↔ c ∈ text ∧ c ≠ '.' := by
  induction text with
  | nil => simp [split]
  | cons d rest ih =>
      by_cases hd : d = '.'
      · subst hd
        simp only [split, if_true, List.mem_cons, exists_eq_or_imp, List.not_mem_nil, false_or, ih]
        constructor
        · rintro ⟨hc, hne⟩
          exact ⟨Or.inr hc, hne⟩
        · rintro ⟨hc | hc, hne⟩
          · exact absurd hc hne
          · exact ⟨hc, hne⟩
      · obtain ⟨first, labels, hsplit⟩ := List.exists_cons_of_ne_nil (split_ne_nil rest)
        rw [hsplit] at ih
        simp only [List.mem_cons, exists_eq_or_imp] at ih
        simp only [split, hd, if_false, hsplit, consHead, List.mem_cons, exists_eq_or_imp]
        constructor
        · rintro ((rfl | hc) | hc)
          · exact ⟨Or.inl rfl, hd⟩
          · have := ih.mp (Or.inl hc)
            exact ⟨Or.inr this.1, this.2⟩
          · have := ih.mp (Or.inr hc)
            exact ⟨Or.inr this.1, this.2⟩
        · rintro ⟨rfl | hc, hne⟩
          · exact Or.inl (Or.inl rfl)
          · rcases ih.mpr ⟨hc, hne⟩ with h | h
            · exact Or.inl (Or.inr h)
            · exact Or.inr h

end Label

end CleanupRules
