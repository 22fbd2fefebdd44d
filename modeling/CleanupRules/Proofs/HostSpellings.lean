import Mathlib.Data.List.Forall2
import CleanupRules.Rule.Suggestion
import CleanupRules.RuleSet.Basic

/-!
Other spellings of a host: with blanks around it, a dot at either end, and capital letters. They have
the normal spelling of the host, and so whatever is answered about them is answered about the host.
-/

namespace CleanupRules.Proofs.HostSpellings

open Host (dropLeadingDot dropTrailingDot normalize registrable)
open Text (isBlank trim)

/-- The letter itself, or its capital letter if it is a small one of ASCII. -/
def Spells (c spelled : Char) : Prop :=
  spelled = c ∨ c.isLower = true ∧ spelled = c.toUpper

/-- The parts of a spelling of a host, in their order. -/
structure Spelling (host : Host) where
  before : List Char
  lead : List Char
  letters : List Char
  trail : List Char
  after : List Char
  before_blank : ∀ c ∈ before, isBlank c = true
  lead_dot : lead = [] ∨ lead = ['.']
  letters_spell : List.Forall₂ Spells host letters
  trail_dot : trail = [] ∨ trail = ['.']
  after_blank : ∀ c ∈ after, isBlank c = true

def Spelling.text {host : Host} (spelling : Spelling host) : List Char :=
  spelling.before ++ (spelling.lead ++ (spelling.letters ++ spelling.trail) ++ spelling.after)

theorem lower_of_spells {host letters : List Char} (hsmall : ∀ c ∈ host, c.isUpper = false)
    (h : List.Forall₂ Spells host letters) : Text.lower letters = host := by
  induction h with
  | nil => rfl
  | @cons c spelled host letters hspells _ ih =>
      have hself : c.toLower = c := Text.toLower_of_not_isUpper (hsmall c List.mem_cons_self)
      have hletter : spelled.toLower = c := by
        rcases hspells with rfl | ⟨hlower, rfl⟩
        · exact hself
        · exact Text.toLower_toUpper_of_isLower hlower
      have hrest := ih fun d hd => hsmall d (List.mem_cons_of_mem c hd)
      rw [Text.lower, List.map_cons, hletter]
      exact congrArg (c :: ·) hrest

theorem isBlank_of_letter {c : Char} (hfirst : 65 ≤ c.toNat) (hlast : c.toNat ≤ 122) :
    isBlank c = false := by
  have hruns : ∀ run ∈ Text.blanks, run.last < 65 ∨ 122 < run.first := by decide
  rw [Bool.eq_false_iff]
  intro hblank
  obtain ⟨run, hrun, hhas⟩ := Text.inRuns_iff.mp hblank
  simp only [Text.Run.has, Bool.and_eq_true, decide_eq_true_eq] at hhas
  have hbeside := hruns run hrun
  omega

theorem isBlank_toLower (c : Char) : isBlank c.toLower = isBlank c := by
  cases h : c.isUpper with
  | false => rw [Text.toLower_of_not_isUpper h]
  | true =>
      have hcode := Text.toNat_toLower_of_isUpper h
      rw [Text.isUpper_iff] at h
      rw [isBlank_of_letter (by omega) (by omega), isBlank_of_letter (by omega) (by omega)]

theorem edge_of_lower {edge : Option Char} (hblank : ∀ c ∈ edge.map Char.toLower, isBlank c = false)
    (hdot : edge.map Char.toLower ≠ some '.') :
    (∀ c ∈ edge, isBlank c = false) ∧ edge ≠ some '.' := by
  constructor
  · intro c hc
    rw [← isBlank_toLower]
    exact hblank _ (Option.mem_map_of_mem Char.toLower hc)
  · rintro rfl
    exact hdot rfl

theorem dropTrailingDot_append {letters trail : List Char} (htrail : trail = [] ∨ trail = ['.'])
    (hlast : letters.getLast? ≠ some '.') : dropTrailingDot (letters ++ trail) = letters := by
  rcases htrail with rfl | rfl
  · rw [List.append_nil, Host.dropTrailingDot_eq_self hlast]
  · exact Host.dropTrailingDot_append_dot letters

theorem drop_dots {lead letters trail : List Char} (hlead : lead = [] ∨ lead = ['.'])
    (htrail : trail = [] ∨ trail = ['.']) (hfirst : letters.head? ≠ some '.')
    (hlast : letters.getLast? ≠ some '.') :
    dropTrailingDot (dropLeadingDot (lead ++ (letters ++ trail))) = letters := by
  rcases hlead with rfl | rfl
  · cases letters with
    | nil =>
        rcases htrail with rfl | rfl
        · rfl
        · rfl
    | cons c letters =>
        have hkept : dropLeadingDot (c :: letters ++ trail) = c :: letters ++ trail :=
          Host.dropLeadingDot_eq_self_iff.mpr hfirst
        rw [List.nil_append, hkept, dropTrailingDot_append htrail hlast]
  · exact dropTrailingDot_append htrail hlast

theorem trim_dots {lead letters trail : List Char} (hlead : lead = [] ∨ lead = ['.'])
    (htrail : trail = [] ∨ trail = ['.']) (hfirst : ∀ c ∈ letters.head?, isBlank c = false)
    (hlast : ∀ c ∈ letters.getLast?, isBlank c = false) :
    trim (lead ++ (letters ++ trail)) = lead ++ (letters ++ trail) := by
  have hdots : ∀ dots : List Char, dots = [] ∨ dots = ['.'] → ∀ c ∈ dots, isBlank c = false := by
    rintro dots (rfl | rfl) c hc
    · contradiction
    · rw [List.mem_singleton.mp hc]
      decide
  rw [Text.trim_eq_self_iff]
  constructor
  · intro c hc
    rw [List.head?_append, List.head?_append, Option.mem_def, Option.or_eq_some_iff,
      Option.or_eq_some_iff] at hc
    rcases hc with hc | ⟨-, hc | ⟨-, hc⟩⟩
    · exact hdots lead hlead c (List.mem_of_mem_head? hc)
    · exact hfirst c hc
    · exact hdots trail htrail c (List.mem_of_mem_head? hc)
  · intro c hc
    rw [List.getLast?_append, List.getLast?_append, Option.mem_def, Option.or_eq_some_iff,
      Option.or_eq_some_iff] at hc
    rcases hc with (hc | ⟨-, hc⟩) | ⟨-, hc⟩
    · exact hdots trail htrail c (List.mem_of_getLast? hc)
    · exact hlast c hc
    · exact hdots lead hlead c (List.mem_of_getLast? hc)

theorem normalize_text {host : Host} (hnormal : normalize host = host) (spelling : Spelling host) :
    normalize spelling.text = host := by
  obtain ⟨htrim, hfirst, hlast, hsmall⟩ := Host.normalize_eq_self_iff.mp hnormal
  obtain ⟨hfirstBlank, hlastBlank⟩ := Text.trim_eq_self_iff.mp htrim
  have hlower := lower_of_spells hsmall spelling.letters_spell
  rw [← hlower, Text.lower, List.head?_map] at hfirst hfirstBlank
  rw [← hlower, Text.lower, List.getLast?_map] at hlast hlastBlank
  obtain ⟨hfirstBlank, hfirst⟩ := edge_of_lower hfirstBlank hfirst
  obtain ⟨hlastBlank, hlast⟩ := edge_of_lower hlastBlank hlast
  rw [Host.normalize, Spelling.text,
    Text.trim_between_blanks _ spelling.before_blank spelling.after_blank,
    trim_dots spelling.lead_dot spelling.trail_dot hfirstBlank hlastBlank,
    drop_dots spelling.lead_dot spelling.trail_dot hfirst hlast, hlower]

/-- All that is answered about two hosts is the same. -/
structure AnsweredAlike (host other : Host) : Prop where
  decide : ∀ set : RuleSet, set.decide host = set.decide other
  matchingEntries : ∀ set : RuleSet, set.matchingEntries host = set.matchingEntries other
  isProtected : ∀ (set : RuleSet) (restarting : Bool),
    set.isProtected host restarting = set.isProtected other restarting
  registrable : registrable host = registrable other
  suggest : Rule.suggest host = Rule.suggest other

/-- Nothing but the normal spelling of a host is looked at. -/
theorem answeredAlike_of_normalize_eq {host other : Host} (h : normalize host = normalize other) :
    AnsweredAlike host other := by
  have haccepting : ∀ set : RuleSet, set.accepting host = set.accepting other := by
    intro set
    rw [RuleSet.accepting, h, RuleSet.accepting]
  have hdecide : ∀ set : RuleSet, set.decide host = set.decide other := by
    intro set
    rw [RuleSet.decide, haccepting, RuleSet.decide]
  refine ⟨hdecide, ?_, ?_, ?_, ?_⟩
  · intro set
    rw [RuleSet.matchingEntries, haccepting, RuleSet.matchingEntries]
  · intro set restarting
    rw [RuleSet.isProtected, RuleSet.cleanupFor, hdecide, RuleSet.isProtected, RuleSet.cleanupFor]
  · rw [registrable, h, registrable]
  · rw [Rule.suggest, h, Rule.suggest]

theorem spelling_answered_alike {host : Host} (hnormal : normalize host = host)
    (spelling : Spelling host) :
    normalize spelling.text = host ∧ AnsweredAlike spelling.text host := by
  have htext := normalize_text hnormal spelling
  exact ⟨htext, answeredAlike_of_normalize_eq (htext.trans hnormal.symm)⟩

theorem spelling_answered_alike_blanks :
    normalize "wé.uk".toList = "wé.uk".toList ∧
      normalize "\t .Wé.uK.\u3000".toList = "wé.uk".toList ∧
      AnsweredAlike "\t .Wé.uK.\u3000".toList "wé.uk".toList := by
  let spelling : Spelling "wé.uk".toList :=
    { before := "\t ".toList
      lead := ['.']
      letters := "Wé.uK".toList
      trail := ['.']
      after := "\u3000".toList
      before_blank := by simp; decide
      lead_dot := Or.inr rfl
      letters_spell := .cons (Or.inr ⟨rfl, rfl⟩) <| .cons (Or.inl rfl) <| .cons (Or.inl rfl) <|
        .cons (Or.inl rfl) <| .cons (Or.inr ⟨rfl, rfl⟩) .nil
      trail_dot := Or.inr rfl
      after_blank := by simp; decide }
  have hnormal : normalize "wé.uk".toList = "wé.uk".toList := by decide
  exact ⟨hnormal, spelling_answered_alike hnormal spelling⟩

end CleanupRules.Proofs.HostSpellings
