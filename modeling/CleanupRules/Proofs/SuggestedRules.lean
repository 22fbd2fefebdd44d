import Mathlib.Data.Set.BooleanAlgebra
import Mathlib.Order.CompletePartialOrder
import CleanupRules.Proofs.CompiledRules
import CleanupRules.Proofs.StrongestRule
import CleanupRules.Rule.Suggestion

/-!
The rules that are suggested for a host. Each of them matches the host, and they are in order: the
first one matches nothing else, and every further one matches strictly more than the one before it.
-/

namespace CleanupRules.Proofs.SuggestedRules

open CompiledRules
open RuleMeaning
open Segment (Covers covers_literal_iff covers_nil_iff covers_wildcard_iff)

def accepted (rule : List Char) : Set (List Char) :=
  {candidate | (Matcher.compile rule).test candidate = true}

theorem mem_accepted_iff {rule candidate : List Char} :
    candidate ∈ accepted rule ↔ Covers (ruleLabels (Rule.parse rule)) (Label.split candidate) :=
  test_compile_iff_covers rule candidate

theorem covers_literals_iff {literals labels : List Label} :
    Covers (literals.map Segment.literal) labels ↔ labels = literals := by
  induction literals generalizing labels with
  | nil => exact covers_nil_iff
  | cons label literals ih => simp [covers_literal_iff, ih]

theorem map_ofLabel_of_no_wildcard {labels : List Label} (h : Label.wildcard ∉ labels) :
    labels.map Segment.ofLabel = labels.map Segment.literal := by
  apply List.map_congr_left
  intro label hlabel
  apply if_neg
  rintro rfl
  exact h hlabel

section Domain

variable {domain : Host} (h : Label.wildcard ∉ Label.split domain)

include h

theorem accepted_eq_singleton : accepted domain = {domain} := by
  have hdouble : domain ≠ ['*', '.', '*'] := by
    rintro rfl
    exact h (by decide)
  ext candidate
  rw [mem_accepted_iff, ruleLabels_parse hdouble, map_ofLabel_of_no_wildcard h,
    covers_literals_iff, Set.mem_singleton_iff]
  constructor
  · intro hsplit
    rw [← Label.join_split candidate, hsplit, Label.join_split]
  · rintro rfl
    rfl

theorem mem_accepted_below_iff {candidate : List Char} :
    candidate ∈ accepted (Rule.below domain) ↔ Label.split domain <:+ Label.split candidate := by
  have hsplit : Label.split (Rule.below domain) = Label.wildcard :: Label.split domain :=
    Label.split_append_dot (by decide) domain
  have hdouble : Rule.below domain ≠ ['*', '.', '*'] := by
    intro heq
    have hdomain : domain = Label.wildcard := (List.cons.inj (List.cons.inj heq).2).2
    rw [hdomain] at h
    exact h (by decide)
  rw [mem_accepted_iff, ruleLabels_parse hdouble, hsplit, List.map_cons,
    map_ofLabel_of_no_wildcard h]
  refine covers_wildcard_iff.trans ?_
  simp only [covers_literals_iff]
  constructor
  · rintro ⟨run, rest, heq, rfl⟩
    exact ⟨run, heq.symm⟩
  · rintro ⟨run, heq⟩
    exact ⟨run, _, heq.symm, rfl⟩

end Domain

theorem no_wildcard_of_suffix {domain outer : Host} (h : Label.wildcard ∉ Label.split domain)
    (houter : Label.split outer <:+ Label.split domain) : Label.wildcard ∉ Label.split outer := by
  intro hmem
  exact h (houter.subset hmem)

theorem accepted_ssubset_below {domain outer : Host} (h : Label.wildcard ∉ Label.split domain)
    (houter : Label.split outer <:+ Label.split domain) :
    accepted domain ⊂ accepted (Rule.below outer) := by
  have hbelow := @mem_accepted_below_iff outer (no_wildcard_of_suffix h houter)
  rw [accepted_eq_singleton h, Set.ssubset_iff_exists]
  refine ⟨?_, '.' :: domain, ?_, ?_⟩
  · rintro _ rfl
    exact hbelow.mpr houter
  · rw [hbelow]
    exact houter.trans (List.suffix_cons [] (Label.split domain))
  · simp

theorem accepted_below_ssubset_below {domain parent : Host}
    (h : Label.wildcard ∉ Label.split domain) (hparent : domain.parent? = some parent) :
    accepted (Rule.below domain) ⊂ accepted (Rule.below parent) := by
  obtain ⟨label, hsplit⟩ := Host.exists_split_of_parent? hparent
  have hsuffix : Label.split parent <:+ Label.split domain := ⟨[label], hsplit.symm⟩
  have hbelow := @mem_accepted_below_iff parent (no_wildcard_of_suffix h hsuffix)
  rw [Set.ssubset_iff_exists]
  refine ⟨?_, parent, hbelow.mpr List.suffix_rfl, ?_⟩
  · intro candidate hcandidate
    rw [mem_accepted_below_iff h] at hcandidate
    exact hbelow.mpr (hsuffix.trans hcandidate)
  · rw [mem_accepted_below_iff h, hsplit]
    intro hsuffix
    have hle := hsuffix.length_le
    rw [List.length_cons] at hle
    omega

theorem isChain_below_ancestryFrom (least : Nat) (domain : Host)
    (h : Label.wildcard ∉ Label.split domain) :
    ((Host.ancestryFrom least domain).map fun older => accepted (Rule.below older)).IsChain
      (· ⊂ ·) := by
  rcases Host.ancestryFrom_cases least domain with hall | hall |
    ⟨parent, older, hparent, hrest, hall⟩
  · rw [hall]
    exact List.isChain_nil
  · rw [hall]
    exact List.isChain_singleton _
  · have hchain := isChain_below_ancestryFrom least parent
      (no_wildcard_of_suffix h (Host.split_suffix_of_parent? hparent))
    rw [hrest] at hchain
    rw [hall]
    exact List.isChain_cons_cons.mpr ⟨accepted_below_ssubset_below h hparent, hchain⟩
termination_by domain.length
decreasing_by exact Host.length_lt_of_parent? hparent

theorem isChain_accepted_suggest {host : Host}
    (h : Label.wildcard ∉ Label.split (Host.normalize host)) :
    ((Rule.suggest host).map accepted).IsChain (· ⊂ ·) := by
  have hself := accepted_ssubset_below h List.suffix_rfl
  rw [Rule.suggest]
  split
  · exact List.isChain_nil
  split
  · exact List.isChain_singleton _
  rcases Host.ancestryFrom_cases _ (Host.normalize host) with hall | hall |
    ⟨parent, older, hparent, hrest, hall⟩
  · rw [Host.ancestry, hall]
    exact List.isChain_cons_cons.mpr ⟨hself, List.isChain_singleton _⟩
  · rw [Host.ancestry, hall]
    exact List.isChain_cons_cons.mpr ⟨hself, List.isChain_singleton _⟩
  · have hsuffix := Host.split_suffix_of_parent? hparent
    have hchain := isChain_below_ancestryFrom
      (Text.byteLength (Host.registrable (Host.normalize host))) parent
      (no_wildcard_of_suffix h hsuffix)
    rw [hrest] at hchain
    rw [Host.ancestry, hall]
    refine List.isChain_cons_cons.mpr ⟨accepted_ssubset_below h hsuffix, ?_⟩
    rw [List.map_map]
    exact hchain

theorem exists_suggest_eq_cons {host : Host} (hne : Host.normalize host ≠ []) :
    ∃ others, Rule.suggest host = Host.normalize host :: others := by
  rw [Rule.suggest, if_neg hne]
  split
  · exact ⟨_, rfl⟩
  · split
    · exact ⟨_, rfl⟩
    · exact ⟨_, rfl⟩

theorem mem_matchingEntries_push {set : RuleSet} {rule : List Char} {cleanup : Cleanup}
    {host : Host} (h : Host.normalize host ∈ accepted rule) :
    ⟨Matcher.compile rule, cleanup⟩ ∈
      (set.push (Matcher.compile rule) cleanup).matchingEntries host := by
  rw [StrongestRule.matchingEntries_eq_filter, RuleSet.entries_push]
  exact List.mem_filter.mpr ⟨by simp, h⟩

/-- The suggestions for a host begin with the host alone and then grow, so that each of them, once
it is in a rule set, matches the host. -/
structure SpecificFirst (host : Host) : Prop where
  accepts : ∀ rule ∈ Rule.suggest host, Host.normalize host ∈ accepted rule
  first : ∃ rule others, Rule.suggest host = rule :: others ∧
    accepted rule = {Host.normalize host}
  grows : (Rule.suggest host).IsChain fun rule next => accepted rule ⊂ accepted next
  nodup : (Rule.suggest host).Nodup
  matches_pushed : ∀ rule ∈ Rule.suggest host, ∀ (set : RuleSet) (cleanup : Cleanup),
    ⟨Matcher.compile rule, cleanup⟩ ∈
      (set.push (Matcher.compile rule) cleanup).matchingEntries host

theorem specificFirst_suggest {host : Host} (hne : Host.normalize host ≠ [])
    (hlabels : Label.wildcard ∉ Label.split (Host.normalize host)) : SpecificFirst host := by
  have hchain := isChain_accepted_suggest hlabels
  have hpairwise := List.pairwise_map.mp (List.isChain_iff_pairwise.mp hchain)
  have hself := accepted_eq_singleton hlabels
  obtain ⟨others, hsuggest⟩ := exists_suggest_eq_cons hne
  have haccepts : ∀ rule ∈ Rule.suggest host, Host.normalize host ∈ accepted rule := by
    intro rule hrule
    have hfirst : Host.normalize host ∈ accepted (Host.normalize host) := by
      rw [hself]
      exact Set.mem_singleton _
    rw [hsuggest] at hrule hpairwise
    rcases List.mem_cons.mp hrule with rfl | hother
    · exact hfirst
    · exact ((List.pairwise_cons.mp hpairwise).1 rule hother).subset hfirst
  refine ⟨haccepts, ⟨_, others, hsuggest, hself⟩, (List.isChain_map accepted).mp hchain, ?_, ?_⟩
  · apply hpairwise.imp
    rintro rule _ hlt rfl
    exact ssubset_irrefl _ hlt
  · intro rule hrule set cleanup
    exact mem_matchingEntries_push (haccepts rule hrule)

theorem specificFirst_suggest_spelled :
    Host.normalize " ..A.b.Example.co.uk.".toList = ".a.b.example.co.uk".toList ∧
      Label.wildcard ∉ Label.split ".a.b.example.co.uk".toList ∧
      SpecificFirst " ..A.b.Example.co.uk.".toList :=
  ⟨by decide, by decide, specificFirst_suggest (by decide) (by decide)⟩

end CleanupRules.Proofs.SuggestedRules
