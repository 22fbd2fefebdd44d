import CleanupRules.Cleanup
import CleanupRules.Text.Separator

/-!
Rules with their cleanup types, as users list them and as they are written, `<rule>=<type>`.
-/

namespace CleanupRules

/-- A rule, not compiled yet, and the cleanup type of the hosts it matches. -/
structure RuleSpec where
  rule : List Char
  cleanup : Cleanup
  deriving DecidableEq

namespace RuleSpec

def text (spec : RuleSpec) : List Char :=
  spec.rule ++ '=' :: spec.cleanup.name

/-- Why a text is no rule with a type. -/
inductive ParseError
  /-- There is no `=` in the text. -/
  | missingType (text : List Char)
  | unknownName (error : Cleanup.UnknownName)
  deriving DecidableEq

def ParseError.message : ParseError → List Char
  | .missingType text => "Expected <rule>=<type>, got ".toList ++ Text.quote text
  | .unknownName error => error.message

/-- Reads the written form. The type follows the last `=`, so that the rule may hold others. -/
def parse (text : List Char) : Except ParseError RuleSpec :=
  match Text.splitLast? '=' text with
  | none => .error (.missingType text)
  | some (rule, name) =>
      match Cleanup.parse name with
      | .error error => .error (.unknownName error)
      | .ok cleanup => .ok ⟨rule, cleanup⟩

theorem equals_not_mem_of_parse {name : List Char} {cleanup : Cleanup}
    (h : Cleanup.parse name = .ok cleanup) : '=' ∉ name := by
  intro hmem
  have hlower : '=' ∈ Text.lower (Text.trim name) :=
    List.mem_map.mpr ⟨'=', Text.mem_trim_of_mem hmem (by decide), by decide⟩
  have hwords : ∀ word ∈ Cleanup.words, '=' ∉ word.1 := by decide
  exact hwords _ (Cleanup.mem_words_of_parse h) hlower

theorem parse_append {name : List Char} {cleanup : Cleanup}
    (h : Cleanup.parse name = .ok cleanup) (rule : List Char) :
    parse (rule ++ '=' :: name) = .ok ⟨rule, cleanup⟩ := by
  rw [parse, Text.splitLast?_append (equals_not_mem_of_parse h)]
  simp only [h]

end RuleSpec

end CleanupRules
