/-!
Columns of a plain-text table: a text brought to a width, counted in characters.
-/

namespace CleanupRules.Text

inductive Alignment
  | left
  | right
  | center

/-- Fills a text up to a width with spaces; a longer text stays whole. In the middle, an odd space
goes to the right. -/
def pad (align : Alignment) (width : Nat) (text : List Char) : List Char :=
  let spare := width - text.length
  match align with
  | .left => text ++ List.replicate spare ' '
  | .right => List.replicate spare ' ' ++ text
  | .center =>
      List.replicate (spare / 2) ' ' ++ text ++ List.replicate (spare - spare / 2) ' '

/-- Cuts a text to at most `limit` characters, if there is a limit. -/
def cut (limit : Option Nat) (text : List Char) : List Char :=
  match limit with
  | none => text
  | some n => text.take n

@[simp] theorem length_pad (align : Alignment) (width : Nat) (text : List Char) :
    (pad align width text).length = max width text.length := by
  cases align <;> simp [pad] <;> omega

end CleanupRules.Text
