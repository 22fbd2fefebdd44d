/-!
Lengths of texts in UTF-8 bytes.
-/

namespace CleanupRules.Text

/-- The number of bytes a text takes in UTF-8. -/
def byteLength : List Char → Nat
  | [] => 0
  | c :: rest => c.utf8Size + byteLength rest

@[simp] theorem byteLength_nil : byteLength [] = 0 := rfl

@[simp] theorem byteLength_cons (c : Char) (rest : List Char) :
    byteLength (c :: rest) = c.utf8Size + byteLength rest := rfl

@[simp] theorem byteLength_append (a b : List Char) :
    byteLength (a ++ b) = byteLength a + byteLength b := by
  induction a with
  | nil => simp
  | cons c rest ih => simp [ih, Nat.add_assoc]

theorem byteLength_le_of_sublist {part text : List Char} (h : part.Sublist text) :
    byteLength part ≤ byteLength text := by
  induction h with
  | slnil => exact Nat.le_refl _
  | cons c _ ih => exact Nat.le_trans ih (Nat.le_add_left _ _)
  | cons_cons c _ ih => exact Nat.add_le_add_left ih _

theorem byteLength_eq_zero_iff {text : List Char} : byteLength text = 0 ↔ text = [] := by
  cases text with
  | nil => simp
  | cons c rest =>
      have hpos := c.utf8Size_pos
      simp only [byteLength_cons, reduceCtorEq, iff_false]
      omega

theorem eq_of_suffix_of_byteLength_le {part text : List Char} (h : part <:+ text)
    (hle : byteLength text ≤ byteLength part) : part = text := by
  obtain ⟨front, rfl⟩ := h
  rw [byteLength_append] at hle
  have hfront : byteLength front = 0 := by omega
  rw [byteLength_eq_zero_iff.mp hfront, List.nil_append]

end CleanupRules.Text
