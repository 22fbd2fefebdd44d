import CleanupRules.RuleSpec.Basic

/-!
Rules with their types as they are written. Every rule is read back from its written form, and the
texts that can be read are those with a word for a type behind their last `=`. Why another text is
refused is seen from the text as well, so every text has exactly one reading.
-/

namespace CleanupRules.Proofs.WrittenSpecs

open RuleSpec (ParseError parse)
open Text (lower trim)

def wordsFor : Cleanup → List (List Char)
  | .never => ["never".toList, "keep".toList]
  | .startup => ["startup".toList, "restart".toList]
  | .leave => ["leave".toList]
  | .instantly => ["instantly".toList, "instant".toList, "clear".toList]

/-- A name for a type is a word for it; blanks around it and capital letters of ASCII do not matter. -/
def Names (name : List Char) (cleanup : Cleanup) : Prop :=
  lower (trim name) ∈ wordsFor cleanup

/-- What a text is read as. It is cut at an `=` behind which there is no other one. -/
inductive Reads : List Char → Except ParseError RuleSpec → Prop
  | spec {rule name : List Char} {cleanup : Cleanup} (hname : '=' ∉ name)
      (hcleanup : Names name cleanup) : Reads (rule ++ '=' :: name) (.ok ⟨rule, cleanup⟩)
  | unknownName {rule name : List Char} (hname : '=' ∉ name)
      (hnone : ∀ cleanup, ¬ Names name cleanup) :
      Reads (rule ++ '=' :: name) (.error (.unknownName ⟨name⟩))
  | missingType {text : List Char} (htext : '=' ∉ text) : Reads text (.error (.missingType text))

theorem mem_words_iff {word : List Char} {cleanup : Cleanup} :
    (word, cleanup) ∈ Cleanup.words ↔ word ∈ wordsFor cleanup := by
  have hwords : ∀ entry ∈ Cleanup.words, entry.1 ∈ wordsFor entry.2 := by decide
  have hall : ∀ word ∈ wordsFor cleanup, (word, cleanup) ∈ Cleanup.words := by
    cases cleanup <;> decide
  exact ⟨hwords _, hall word⟩

theorem parse_name_eq_ok_iff {name : List Char} {cleanup : Cleanup} :
    Cleanup.parse name = .ok cleanup ↔ Names name cleanup := by
  rw [Cleanup.parse_eq_ok_iff, mem_words_iff, Names]

theorem parse_name_of_no_word {name : List Char} (h : ∀ cleanup, ¬ Names name cleanup) :
    Cleanup.parse name = .error ⟨name⟩ := by
  cases hname : Cleanup.parse name with
  | ok cleanup => exact absurd (parse_name_eq_ok_iff.mp hname) (h cleanup)
  | error error => rw [Cleanup.text_of_parse_error hname]

theorem names_name (cleanup : Cleanup) : Names cleanup.name cleanup := by
  rw [Names]
  cases cleanup <;> decide

theorem reads_parse (text : List Char) : Reads text (parse text) := by
  rw [parse]
  split
  · rename_i hsplit
    exact .missingType (Text.splitLast?_eq_none_iff.mp hsplit)
  · rename_i rule name hsplit
    obtain ⟨rfl, hname⟩ := Text.splitLast?_eq_some_iff.mp hsplit
    split
    · rename_i error hparse
      rw [Cleanup.text_of_parse_error hparse]
      refine .unknownName hname fun cleanup hcleanup => ?_
      rw [parse_name_eq_ok_iff.mpr hcleanup] at hparse
      contradiction
    · rename_i cleanup hparse
      exact .spec hname (parse_name_eq_ok_iff.mp hparse)

theorem parse_of_reads {text : List Char} {result : Except ParseError RuleSpec}
    (h : Reads text result) : parse text = result := by
  cases h with
  | spec hname hcleanup => exact RuleSpec.parse_append (parse_name_eq_ok_iff.mpr hcleanup) _
  | unknownName hname hnone =>
      rw [parse, Text.splitLast?_append hname]
      simp only [parse_name_of_no_word hnone]
  | missingType htext => rw [parse, Text.splitLast?_eq_none_iff.mpr htext]

theorem parse_eq_iff_reads {text : List Char} {result : Except ParseError RuleSpec} :
    parse text = result ↔ Reads text result := by
  constructor
  · rintro rfl
    exact reads_parse text
  · exact parse_of_reads

/-- Written rules are read back. A text is read as a rule with a type if and only if it is the rule,
an `=` and a name for the type without another `=`; without any `=` its type is missing, and
otherwise what is behind the last one is refused as it stands. -/
theorem parse_written_form :
    (∀ spec : RuleSpec, parse spec.text = .ok spec) ∧
      ∀ text : List Char,
        (∀ spec : RuleSpec, parse text = .ok spec ↔
          ∃ name, text = spec.rule ++ '=' :: name ∧ '=' ∉ name ∧ Names name spec.cleanup) ∧
        (parse text = .error (.missingType text) ↔ '=' ∉ text) ∧
        ∀ error, parse text = .error error ↔
          '=' ∉ text ∧ error = .missingType text ∨
            ∃ rule name, text = rule ++ '=' :: name ∧ '=' ∉ name ∧
              (∀ cleanup, ¬ Names name cleanup) ∧ error = .unknownName ⟨name⟩ := by
  refine ⟨?_, fun text => ⟨?_, ?_, ?_⟩⟩
  · intro spec
    exact RuleSpec.parse_append (parse_name_eq_ok_iff.mpr (names_name spec.cleanup)) spec.rule
  · intro spec
    rw [parse_eq_iff_reads]
    constructor
    · intro h
      cases h with
      | spec hname hcleanup => exact ⟨_, rfl, hname, hcleanup⟩
    · rintro ⟨name, rfl, hname, hcleanup⟩
      exact .spec hname hcleanup
  · rw [parse_eq_iff_reads]
    constructor
    · intro h
      cases h with
      | missingType htext => exact htext
    · exact .missingType
  · intro error
    rw [parse_eq_iff_reads]
    constructor
    · intro h
      cases h with
      | unknownName hname hnone => exact Or.inr ⟨_, _, rfl, hname, hnone, rfl⟩
      | missingType htext => exact Or.inl ⟨htext, rfl⟩
    · rintro (⟨htext, rfl⟩ | ⟨rule, name, rfl, hname, hnone, rfl⟩)
      · exact .missingType htext
      · exact .unknownName hname hnone

example : parse "a=b= KEEP ".toList = .ok ⟨"a=b".toList, .never⟩ := by
  rfl

end CleanupRules.Proofs.WrittenSpecs
