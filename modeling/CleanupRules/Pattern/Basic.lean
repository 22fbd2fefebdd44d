/-!
Patterns over characters: alternatives of things to find one after another. `Pattern.Reaches` says
which stretches of a text a pattern describes.
-/

namespace CleanupRules

mutual

/-- One or more alternatives. -/
inductive Pattern
  | only (branch : Pattern.Branch)
  | either (branch : Pattern.Branch) (others : Pattern)

/-- Things to find one after another. -/
inductive Pattern.Branch
  | done
  | char (c : Char) (rest : Pattern.Branch)
  /-- The start of the text. -/
  | start (rest : Pattern.Branch)
  /-- The end of the text. -/
  | finish (rest : Pattern.Branch)
  /-- Any number of any characters. -/
  | anything (rest : Pattern.Branch)
  | group (body : Pattern) (optional : Bool) (rest : Pattern.Branch)

end

deriving instance DecidableEq for Pattern, Pattern.Branch

namespace Pattern

mutual

/-- The pattern describes the text from offset `i` to offset `j`. -/
def Reaches (text : List Char) : Pattern → Nat → Nat → Prop
  | .only branch, i, j => branch.Reaches text i j
  | .either branch others, i, j => branch.Reaches text i j ∨ others.Reaches text i j

/-- The branch describes the text from offset `i` to offset `j`. -/
def Branch.Reaches (text : List Char) : Branch → Nat → Nat → Prop
  | .done, i, j => i = j
  | .char c rest, i, j => text[i]? = some c ∧ rest.Reaches text (i + 1) j
  | .start rest, i, j => i = 0 ∧ rest.Reaches text i j
  | .finish rest, i, j => i = text.length ∧ rest.Reaches text i j
  | .anything rest, i, j => ∃ k, i ≤ k ∧ k ≤ text.length ∧ rest.Reaches text k j
  | .group body optional rest, i, j =>
      ∃ k, (body.Reaches text i k ∨ optional = true ∧ i = k) ∧ rest.Reaches text k j

end

/-- Somewhere in the text there is a stretch that the pattern describes. -/
def OccursIn (pattern : Pattern) (text : List Char) : Prop :=
  ∃ i j, i ≤ text.length ∧ pattern.Reaches text i j

/-- The characters of a text in order, then what follows. -/
def Branch.text : List Char → Branch → Branch
  | [], rest => rest
  | c :: cs, rest => .char c (Branch.text cs rest)

end Pattern

end CleanupRules
