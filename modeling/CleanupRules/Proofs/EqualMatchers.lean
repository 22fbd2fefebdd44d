import Mathlib.Data.List.Forall2
import CleanupRules.Proofs.StrongestRule

/-!
Equal matchers. Equality looks at the texts of two matchers only, so one that has been compiled
equals one that rejects everything. The two can be told apart where the engine finds something of
their source. Nothing is asked of the engine; in particular the source can be any that it takes.
-/

namespace CleanupRules.Proofs.EqualMatchers

open StrongestRule

/-- What the functions that make matchers yield with an engine. -/
inductive Made (engine : Engine) : Matcher → Prop
  | compile (rule : List Char) : Made engine (engine.compile rule)
  | compile? {rule : List Char} {matcher : Matcher} :
      engine.compile? rule = some matcher → Made engine matcher
  | ofSource? {rule source : List Char} {matcher : Matcher} :
      engine.ofSource? rule source = some matcher → Made engine matcher
  | never (rule source : List Char) : Made engine (Matcher.never rule source)

/-- The engine refuses the source, or finds nothing of it in this text. -/
def Idle (engine : Engine) (source text : List Char) : Prop :=
  ∀ search, engine source = some search → search text = false

/-- Either entry can stand in the place of the other, whatever stands around it. -/
def Interchangeable (entry other : Entry) : Prop :=
  ∀ (front back : List Entry) (fallback : Cleanup) (host : Host),
    (RuleSet.mk (front ++ entry :: back) fallback).decide host =
      (RuleSet.mk (front ++ other :: back) fallback).decide host

section Tests

variable {engine : Engine} {matcher other : Matcher}

theorem beq_iff : (matcher == other) = true ↔
    matcher.rule = other.rule ∧ matcher.source = other.source := by
  change (matcher.rule == other.rule && matcher.source == other.source) = true ↔ _
  rw [Bool.and_eq_true, beq_iff_eq, beq_iff_eq]

theorem search_of_ofSource? {rule source : List Char}
    (h : engine.ofSource? rule source = some matcher) :
    engine matcher.source = matcher.search := by
  obtain ⟨search, hsearch, rfl⟩ := Option.map_eq_some_iff.mp h
  exact hsearch

theorem search_of_made (h : Made engine matcher) {search : List Char → Bool}
    (hsearch : matcher.search = some search) : engine matcher.source = some search := by
  rw [← hsearch]
  cases h with
  | compile rule =>
      rw [Engine.compile] at hsearch ⊢
      cases hcompile : engine.compile? rule with
      | none =>
          rw [hcompile] at hsearch
          contradiction
      | some matcher => exact search_of_ofSource? hcompile
  | compile? h => exact search_of_ofSource? h
  | ofSource? h => exact search_of_ofSource? h
  | never rule source => contradiction

theorem test_of_idle (h : Made engine matcher) {text : List Char}
    (hidle : Idle engine matcher.source text) : matcher.test text = false := by
  rw [Matcher.test]
  split
  · rfl
  · rename_i search hsearch
    exact hidle search (search_of_made h hsearch)

theorem test_of_not_idle (h : Made engine matcher) {text : List Char}
    (hidle : ¬ Idle engine matcher.source text) : matcher.test text = matcher.isCompiled := by
  rw [Matcher.test, Matcher.isCompiled]
  split
  · rename_i hsearch
    rw [hsearch]
    rfl
  · rename_i search hsearch
    simpa [Idle, search_of_made h hsearch, hsearch] using hidle

theorem test_eq_iff (hmatcher : Made engine matcher) (hother : Made engine other)
    (hequal : (matcher == other) = true) (text : List Char) :
    matcher.test text = other.test text ↔
      matcher.isCompiled = other.isCompiled ∨ Idle engine matcher.source text := by
  have hsource := (beq_iff.mp hequal).2
  by_cases hidle : Idle engine matcher.source text
  · have hleft := test_of_idle hmatcher hidle
    have hright := test_of_idle hother (hsource ▸ hidle)
    simp only [hleft, hright, hidle, or_true]
  · have hleft := test_of_not_idle hmatcher hidle
    have hright := test_of_not_idle hother (hsource ▸ hidle)
    simp only [hleft, hright, hidle, or_false]

end Tests

section Replacement

/-- The entries are of one type and say the same of a host. -/
def Alike (host : Host) (entry other : Entry) : Prop :=
  entry.cleanup = other.cleanup ∧
    entry.matcher.test (Host.normalize host) = other.matcher.test (Host.normalize host)

/-- The same for entries with their positions. -/
def AlikeAt (host : Host) (entry other : Entry × Nat) : Prop :=
  Alike host entry.1 other.1 ∧ entry.2 = other.2

theorem forall₂_zipIdx {host : Host} {entries others : List Entry}
    (h : List.Forall₂ (Alike host) entries others) (start : Nat) :
    List.Forall₂ (AlikeAt host) (entries.zipIdx start) (others.zipIdx start) := by
  induction h generalizing start with
  | nil => exact .nil
  | cons hentry _ ih => exact .cons ⟨hentry, rfl⟩ (ih (start + 1))

theorem forall₂_accepting {host : Host} {set other : RuleSet}
    (h : List.Forall₂ (Alike host) set.entries other.entries) :
    List.Forall₂ (AlikeAt host) (set.accepting host) (other.accepting host) := by
  refine List.rel_filter ?_ (forall₂_zipIdx h 0)
  rintro ⟨entry, index⟩ ⟨other, _⟩ ⟨⟨-, htest⟩, -⟩
  exact iff_of_eq (congrArg (· = true) htest)

theorem rel_better {host : Host} {best best' : Option (Entry × Nat)} {next next' : Entry × Nat}
    (hbest : Option.Rel (AlikeAt host) best best') (hnext : AlikeAt host next next') :
    Option.Rel (AlikeAt host) (RuleSet.better best next) (RuleSet.better best' next') := by
  cases hbest with
  | none => exact .some hnext
  | some hentry =>
      simp only [RuleSet.better, hentry.1.1, hnext.1.1]
      split
      · exact .some hentry
      · exact .some hnext

theorem rel_strongest {host : Host} {accepting accepting' : List (Entry × Nat)}
    (h : List.Forall₂ (AlikeAt host) accepting accepting') :
    Option.Rel (AlikeAt host) (RuleSet.strongest accepting) (RuleSet.strongest accepting') := by
  rw [RuleSet.strongest, RuleSet.strongest]
  refine List.rel_foldl ?_ .none h
  intro _ _ hbest _ _ hnext
  exact rel_better hbest hnext

theorem decide_of_alike {host : Host} {set other : RuleSet}
    (hentries : List.Forall₂ (Alike host) set.entries other.entries)
    (hfallback : set.fallback = other.fallback) : set.decide host = other.decide host := by
  have haccepting := forall₂_accepting hentries
  have hstrongest := rel_strongest haccepting
  rw [RuleSet.decide, RuleSet.decide]
  generalize RuleSet.strongest (set.accepting host) = best at hstrongest ⊢
  generalize RuleSet.strongest (other.accepting host) = best' at hstrongest ⊢
  cases hstrongest with
  | none => simp only [haccepting.length_eq, hfallback]
  | some hentry => simp only [haccepting.length_eq, hentry.1.1, hentry.2]

theorem matched_singleton_iff (entry : Entry) (fallback : Cleanup) (host : Host) :
    ((RuleSet.mk [entry] fallback).decide host).matched = 1 ↔
      entry.matcher.test (Host.normalize host) = true := by
  rw [matched_decide, matchingEntries_eq_filter, List.filter_singleton]
  cases entry.matcher.test (Host.normalize host) <;> simp

theorem interchangeable_iff (matcher other : Matcher) (cleanup : Cleanup) :
    Interchangeable ⟨matcher, cleanup⟩ ⟨other, cleanup⟩ ↔
      ∀ host, matcher.test (Host.normalize host) = other.test (Host.normalize host) := by
  constructor
  · intro h host
    have halone : (RuleSet.mk [⟨matcher, cleanup⟩] .leave).decide host =
        (RuleSet.mk [⟨other, cleanup⟩] .leave).decide host := h [] [] .leave host
    rw [Bool.eq_iff_iff, ← matched_singleton_iff ⟨matcher, cleanup⟩ .leave, halone,
      matched_singleton_iff]
  · intro h front back fallback host
    have hsame (entries : List Entry) : List.Forall₂ (Alike host) entries entries :=
      List.forall₂_same.mpr fun _ _ => ⟨rfl, rfl⟩
    refine decide_of_alike ?_ rfl
    exact List.rel_append (hsame front) (.cons ⟨rfl, h host⟩ (hsame back))

/-- Whatever the engine, equal matchers accept the same, and equal entries can stand for each other,
if both matchers are compiled or neither is. Otherwise they do only if the engine finds nothing of
their source in what is tested. -/
theorem equal_matchers_agree_iff (engine : Engine) {matcher other : Matcher}
    (hmatcher : Made engine matcher) (hother : Made engine other)
    (hequal : (matcher == other) = true) :
    ((∀ text, matcher.test text = other.test text) ↔
      matcher.isCompiled = other.isCompiled ∨ ∀ text, Idle engine matcher.source text) ∧
    ∀ cleanup cleanup', (Entry.mk matcher cleanup == Entry.mk other cleanup') = true →
      (Interchangeable ⟨matcher, cleanup⟩ ⟨other, cleanup'⟩ ↔
        matcher.isCompiled = other.isCompiled ∨
          ∀ host, Idle engine matcher.source (Host.normalize host)) := by
  constructor
  · simp only [test_eq_iff hmatcher hother hequal, forall_or_left]
  · intro cleanup cleanup' hentries
    have hcleanup : cleanup = cleanup' := beq_iff_eq.mp (Bool.and_eq_true_iff.mp hentries).2
    rw [← hcleanup, interchangeable_iff]
    simp only [test_eq_iff hmatcher hother hequal, forall_or_left]

theorem equal_matchers_agree_iff_compiled_twice :
    ∃ other, Matcher.ofSource? ['a'] (Rule.source ['a']) = some other ∧
      (∀ text, (Matcher.compile ['a']).test text = other.test text) ∧
      Interchangeable ⟨Matcher.compile ['a'], .never⟩ ⟨other, .never⟩ := by
  have hother : Engine.own.ofSource? ['a'] (Rule.source ['a']) = _ := Matcher.compile?_eq ['a']
  obtain ⟨htests, hentries⟩ :=
    equal_matchers_agree_iff Engine.own (.compile ['a']) (.ofSource? hother) (by decide +kernel)
  exact ⟨_, hother, htests.mpr (.inl (by decide +kernel)),
    (hentries .never .never (by decide +kernel)).mpr (.inl (by decide +kernel))⟩

/-- A rule that is compiled, and one that rejects everything with the same texts. -/
theorem equal_matchers_disagree :
    Made Engine.own (Matcher.compile ['a']) ∧
      Made Engine.own (Matcher.never ['a'] (Rule.source ['a'])) ∧
      (Matcher.compile ['a'] == Matcher.never ['a'] (Rule.source ['a'])) = true ∧
      (Entry.mk (Matcher.compile ['a']) .never ==
        Entry.mk (Matcher.never ['a'] (Rule.source ['a'])) .never) = true ∧
      (Matcher.compile ['a']).test ['a'] = true ∧
      (Matcher.never ['a'] (Rule.source ['a'])).test ['a'] = false ∧
      (RuleSet.mk [⟨Matcher.compile ['a'], .never⟩] .leave).decide ['a'] = ⟨.never, some 0, 1⟩ ∧
      (RuleSet.mk [⟨Matcher.never ['a'] (Rule.source ['a']), .never⟩] .leave).decide ['a'] =
        ⟨.leave, none, 0⟩ :=
  ⟨.compile _, .never _ _, by decide +kernel, by decide +kernel, by decide +kernel, rfl,
    by decide +kernel, by decide +kernel⟩

end Replacement

end CleanupRules.Proofs.EqualMatchers
