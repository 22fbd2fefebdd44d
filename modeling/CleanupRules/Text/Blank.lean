import CleanupRules.Text.Ranges

/-!
Blank characters, those with the Unicode property White_Space, and the removal of blanks from both
ends of a text.
-/

namespace CleanupRules.Text

/-- The characters with the property White_Space. -/
def blanks : List Run :=
  [⟨0x9, 0xD, 1⟩, ⟨0x20, 0x20, 1⟩, ⟨0x85, 0x85, 1⟩, ⟨0xA0, 0xA0, 1⟩, ⟨0x1680, 0x1680, 1⟩,
   ⟨0x2000, 0x200A, 1⟩, ⟨0x2028, 0x2029, 1⟩, ⟨0x202F, 0x202F, 1⟩, ⟨0x205F, 0x205F, 1⟩,
   ⟨0x3000, 0x3000, 1⟩]

def isBlank (c : Char) : Bool :=
  inRuns blanks c

def trimEnd (text : List Char) : List Char :=
  text.foldr (fun c rest => if rest.isEmpty && isBlank c then [] else c :: rest) []

def trim (text : List Char) : List Char :=
  trimEnd (text.dropWhile isBlank)

@[simp] theorem trimEnd_nil : trimEnd [] = [] := rfl

theorem trimEnd_cons (c : Char) (rest : List Char) :
    trimEnd (c :: rest) =
      if (trimEnd rest).isEmpty && isBlank c then [] else c :: trimEnd rest := rfl

theorem trimEnd_append_blanks (text : List Char) {blank : List Char}
    (h : ∀ c ∈ blank, isBlank c = true) : trimEnd (text ++ blank) = trimEnd text := by
  induction text with
  | nil =>
      induction blank with
      | nil => rfl
      | cons c rest ih =>
          have hrest : trimEnd rest = [] := by simpa using ih fun d hd => h d (by simp [hd])
          simp [trimEnd_cons, hrest, h c (by simp)]
  | cons c rest ih => simp [trimEnd_cons, ih]

theorem mem_trimEnd_of_mem {text : List Char} {c : Char} (hmem : c ∈ text)
    (hc : isBlank c = false) : c ∈ trimEnd text := by
  induction text with
  | nil => contradiction
  | cons d rest ih =>
      rw [trimEnd_cons]
      rcases List.mem_cons.mp hmem with rfl | hrest
      · simp [hc]
      · have hne : trimEnd rest ≠ [] := List.ne_nil_of_mem (ih hrest)
        simp [hne, ih hrest]

theorem trimEnd_append_of_not_blank (text : List Char) {c : Char} (h : isBlank c = false) :
    trimEnd (text ++ [c]) = text ++ [c] := by
  induction text with
  | nil => simp [trimEnd_cons, h]
  | cons d rest ih => simp [trimEnd_cons, ih]

theorem trimEnd_eq_self {text : List Char} (h : ∀ c ∈ text.getLast?, isBlank c = false) :
    trimEnd text = text := by
  cases hlast : text.getLast? with
  | none =>
      rw [List.getLast?_eq_none_iff.mp hlast]
      rfl
  | some c =>
      obtain ⟨front, rfl⟩ := List.getLast?_eq_some_iff.mp hlast
      exact trimEnd_append_of_not_blank front (h c hlast)

theorem trimEnd_trimEnd (text : List Char) : trimEnd (trimEnd text) = trimEnd text := by
  induction text with
  | nil => rfl
  | cons c rest ih =>
      rw [trimEnd_cons]
      split
      · rfl
      · rename_i hkeep
        rw [trimEnd_cons, ih, if_neg hkeep]

theorem dropWhile_trim (text : List Char) : (trim text).dropWhile isBlank = trim text := by
  have hhead := List.head?_dropWhile_not isBlank text
  rw [trim]
  cases hdrop : text.dropWhile isBlank with
  | nil => rfl
  | cons c rest =>
      rw [hdrop] at hhead
      have hc : isBlank c = false := by simpa using hhead
      simp [trimEnd_cons, hc]

theorem trim_trim (text : List Char) : trim (trim text) = trim text :=
  calc
    trimEnd ((trim text).dropWhile isBlank) = trimEnd (trim text) := by rw [dropWhile_trim]
    _ = trim text := trimEnd_trimEnd _

theorem mem_trim_of_mem {text : List Char} {c : Char} (hmem : c ∈ text)
    (hc : isBlank c = false) : c ∈ trim text := by
  apply mem_trimEnd_of_mem _ hc
  rw [← List.takeWhile_append_dropWhile (p := isBlank) (l := text)] at hmem
  rcases List.mem_append.mp hmem with htake | hdrop
  · have hblank := List.all_eq_true.mp List.all_takeWhile c htake
    rw [hc] at hblank
    contradiction
  · exact hdrop

theorem trim_between_blanks {before after : List Char} (text : List Char)
    (hbefore : ∀ c ∈ before, isBlank c = true) (hafter : ∀ c ∈ after, isBlank c = true) :
    trim (before ++ (text ++ after)) = trim text := by
  rw [trim, List.dropWhile_append_of_pos hbefore, List.dropWhile_append, trim]
  cases hdrop : text.dropWhile isBlank with
  | nil =>
      rw [List.isEmpty_nil, if_pos rfl]
      exact trimEnd_append_blanks [] fun c hc => hafter c ((List.dropWhile_sublist _).mem hc)
  | cons c rest =>
      rw [List.isEmpty_cons, if_neg Bool.false_ne_true]
      exact trimEnd_append_blanks _ hafter

theorem trimEnd_sublist (text : List Char) : (trimEnd text).Sublist text := by
  induction text with
  | nil => exact List.Sublist.refl _
  | cons c rest ih =>
      rw [trimEnd_cons]
      split
      · exact List.nil_sublist _
      · exact ih.cons_cons c

theorem trim_sublist (text : List Char) : (trim text).Sublist text :=
  (trimEnd_sublist _).trans (List.dropWhile_sublist _)

theorem trim_eq_self_iff {text : List Char} :
    trim text = text ↔
      (∀ c ∈ text.head?, isBlank c = false) ∧ ∀ c ∈ text.getLast?, isBlank c = false := by
  constructor
  · intro h
    have hdrop : text.dropWhile isBlank = text := by
      rw [← h]
      exact dropWhile_trim text
    refine ⟨?_, ?_⟩
    · intro c hc
      have hhead := List.head?_dropWhile_not isBlank text
      rw [hdrop, hc] at hhead
      simpa using hhead
    · intro c hc
      rw [trim, hdrop] at h
      obtain ⟨front, rfl⟩ := List.getLast?_eq_some_iff.mp hc
      rw [Bool.eq_false_iff]
      intro hblank
      rw [trimEnd_append_blanks front (by simp [hblank])] at h
      have hle := (trimEnd_sublist front).length_le
      rw [h, List.length_append] at hle
      exact absurd hle (by simp)
  · rintro ⟨hfirst, hlast⟩
    have hdrop : text.dropWhile isBlank = text := by
      cases text with
      | nil => rfl
      | cons c rest => simp [hfirst c rfl]
    rw [trim, hdrop, trimEnd_eq_self hlast]

theorem trim_of_no_blank {text : List Char} (h : ∀ c ∈ text, isBlank c = false) :
    trim text = text := by
  rw [trim_eq_self_iff]
  constructor
  · intro c hc
    exact h c (List.mem_of_mem_head? hc)
  · intro c hc
    exact h c (List.mem_of_getLast? hc)

end CleanupRules.Text
