import CleanupRules.Pattern.Search
import CleanupRules.Pattern.Spelling

/-!
Engines for regular expressions. Rules need little of one: it must take what patterns are written as,
and find what they describe. Any such engine makes the same matchers of rules; the one that programs
use here knows nothing but patterns.
-/

namespace CleanupRules

/-- What an engine makes of a regular expression: a search that says whether a text has a match
somewhere, or nothing if it refuses the expression. -/
abbrev Engine := List Char → Option (List Char → Bool)

namespace Engine

/-- What rules rely on. Of the expressions with nested groups only those are needed in which one
group is inside another. -/
structure Lawful (engine : Engine) : Prop where
  takes (pattern : Pattern) :
    Pattern.WellFormed 2 pattern.source → ∃ search, engine pattern.source = some search
  finds (pattern : Pattern) {search : List Char → Bool} :
    engine pattern.source = some search → ∀ text, search text = true ↔ pattern.OccursIn text

/-- The engine that takes what can be read as a pattern and nothing else. -/
def own : Engine := fun source =>
  (Pattern.parse? source).map Pattern.occursIn

theorem own_source (pattern : Pattern) : own pattern.source = some pattern.occursIn := by
  rw [own, Pattern.parse?_source]
  rfl

theorem own_lawful : own.Lawful where
  takes pattern _ := ⟨pattern.occursIn, own_source pattern⟩
  finds pattern search h := by
    obtain rfl : pattern.occursIn = search := Option.some.inj ((own_source pattern).symm.trans h)
    exact Pattern.occursIn_eq_true_iff pattern

theorem exists_wellFormed_of_own {source : List Char} {search : List Char → Bool}
    (h : own source = some search) : ∃ depth, Pattern.WellFormed depth source := by
  obtain ⟨pattern, hparse, -⟩ := Option.map_eq_some_iff.mp h
  exact ⟨pattern.depth, Pattern.wellFormed_of_parse? hparse (Nat.le_refl _)⟩

theorem Lawful.eq_occursIn {engine : Engine} (h : engine.Lawful) {pattern : Pattern}
    (hwritten : Pattern.WellFormed 2 pattern.source) :
    engine pattern.source = some pattern.occursIn := by
  obtain ⟨search, hsearch⟩ := h.takes pattern hwritten
  have hfinds : search = pattern.occursIn := by
    funext text
    rw [Bool.eq_iff_iff, h.finds pattern hsearch, Pattern.occursIn_eq_true_iff]
  rw [hsearch, hfinds]

end Engine

end CleanupRules
