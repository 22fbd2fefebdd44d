import CleanupRules.Handle
import CleanupRules.Proofs.DecideCommand

/-!
A handle and the command `decide` give the same answers. The handle keeps every rule that it is
given, the command tidies its list first; for rules without issues this makes no difference.
-/

namespace CleanupRules.Proofs.HandleAgreement

open CommandLine
open DecideCommand
open StrongestRule

/-- Adds rules with the names of their types in order, up to the first name that is none. -/
def addAll (handle : Handle) : List (List Char × List Char) → Except (List Char) Handle
  | [] => .ok handle
  | (rule, name) :: pairs =>
      match handle.add rule name with
      | .error message => .error message
      | .ok added => addAll added.handle pairs

/-- The pair is the rule and a name of its type. -/
def Names (pair : List Char × List Char) (spec : RuleSpec) : Prop :=
  pair.1 = spec.rule ∧ Cleanup.parse pair.2 = .ok spec.cleanup

theorem exists_names {pairs : List (List Char × List Char)}
    (h : ∀ pair ∈ pairs, ∃ cleanup, Cleanup.parse pair.2 = .ok cleanup) :
    ∃ specs, List.Forall₂ Names pairs specs := by
  induction pairs with
  | nil => exact ⟨[], .nil⟩
  | cons pair pairs ih =>
      obtain ⟨cleanup, hcleanup⟩ := h pair (by simp)
      obtain ⟨specs, hspecs⟩ := ih fun other hother => h other (List.mem_cons_of_mem _ hother)
      exact ⟨⟨pair.1, cleanup⟩ :: specs, .cons ⟨rfl, hcleanup⟩ hspecs⟩

theorem addAll_of_names {pairs : List (List Char × List Char)} {specs : List RuleSpec}
    (h : List.Forall₂ Names pairs specs) (handle : Handle) :
    addAll handle pairs =
      .ok ⟨⟨handle.set.entries ++ specs.map compiled, handle.set.fallback⟩⟩ := by
  induction h generalizing handle with
  | nil => simp [addAll]
  | @cons pair spec pairs specs hpair _ ih =>
      obtain ⟨hrule, hcleanup⟩ := hpair
      rw [addAll, Handle.add_of_parse hcleanup, hrule]
      show addAll ⟨handle.set.push (Matcher.compile spec.rule) spec.cleanup⟩ pairs = _
      rw [ih, RuleSet.entries_push, RuleSet.fallback_push, List.map_cons, compiled,
        List.append_assoc, List.singleton_append]

section Tidy

variable {specs : List RuleSpec} (hlint : ∀ spec ∈ specs, Rule.lint spec.rule = [])

include hlint

theorem applying_of_lint (host : Host) :
    applying specs host =
      specs.filter fun spec => (Matcher.compile spec.rule).test (Host.normalize host) := by
  rw [applying]
  apply List.filter_congr
  intro spec hspec
  obtain ⟨hne, hblank⟩ := Rule.no_blank_of_lint (hlint spec hspec)
  rw [Text.trim_of_no_blank hblank]
  simp [hne]

theorem map_trimmed_applying (host : Host) :
    (applying specs host).map RuleSpec.trimmed = applying specs host := by
  have hid : ∀ spec ∈ applying specs host, spec.trimmed = spec := by
    intro spec hspec
    obtain ⟨-, hblank⟩ := Rule.no_blank_of_lint (hlint spec (List.mem_filter.mp hspec).1)
    rw [RuleSpec.trimmed, Text.trim_of_no_blank hblank]
  rw [List.map_congr_left hid, List.map_id']

theorem mem_matchingEntries_iff (fallback : Cleanup) (host : Host) (entry : Entry) :
    entry ∈ (RuleSet.build specs fallback).matchingEntries host ↔
      entry ∈ (tidiedSet specs fallback).matchingEntries host := by
  have hbuild : (RuleSet.build specs fallback).matchingEntries host =
      (applying specs host).map compiled := by
    rw [matchingEntries_eq_filter, applying_of_lint hlint]
    exact List.filter_map ..
  rw [hbuild, matchingEntries_tidiedSet, map_trimmed_applying hlint]
  simp only [List.mem_map, List.mem_eraseDups]

theorem cleanup_decide_build (fallback : Cleanup) (host : Host) :
    ((RuleSet.build specs fallback).decide host).cleanup =
      ((tidiedSet specs fallback).decide host).cleanup :=
  cleanup_decide_of_mem_iff host (mem_matchingEntries_iff hlint fallback host) rfl

end Tidy

/-- A handle says of a host what the command has found. -/
structure SameAnswers (handle : Handle) (host : Host) (finding : Finding) : Prop where
  host_eq : finding.host = host
  cleanupFor_eq : handle.cleanupFor host = finding.cleanup.name
  isProtected_eq : ∀ restarting,
    handle.isProtected host restarting = finding.cleanup.keepsData restarting

theorem sameAnswers_finding {specs : List RuleSpec}
    (hlint : ∀ spec ∈ specs, Rule.lint spec.rule = []) (fallback : Cleanup) {host : Host}
    (hhost : Url.host? host = none) :
    SameAnswers ⟨RuleSet.build specs fallback⟩ host (finding (tidiedSet specs fallback) host) := by
  have hhostOf : Url.hostOf host = host := by rw [Url.hostOf, hhost, Option.getD_none]
  have hcleanup : (RuleSet.build specs fallback).cleanupFor host =
      (finding (tidiedSet specs fallback) host).cleanup := by
    rw [RuleSet.cleanupFor, finding, hhostOf]
    exact cleanup_decide_build hlint fallback host
  refine ⟨hhostOf, ?_, ?_⟩
  · rw [Handle.cleanupFor, hcleanup]
  · intro restarting
    rw [Handle.isProtected, RuleSet.isProtected, hcleanup]

theorem lint_of_names {pairs : List (List Char × List Char)} {specs : List RuleSpec}
    (h : List.Forall₂ Names pairs specs) (hlint : ∀ pair ∈ pairs, Rule.lint pair.1 = []) :
    ∀ spec ∈ specs, Rule.lint spec.rule = [] := by
  induction h with
  | nil => simp
  | @cons pair spec pairs specs hpair _ ih =>
      have hrest := ih fun other hother => hlint other (List.mem_cons_of_mem _ hother)
      refine List.forall_mem_cons.mpr ⟨?_, hrest⟩
      rw [← hpair.1]
      exact hlint pair (by simp)

/-- Rules without issues may be added to a handle or given to the command: the answers are the
same. -/
theorem handle_agrees {pairs : List (List Char × List Char)} {fallbackName : List Char}
    {hosts : List Host}
    (hnames : ∀ pair ∈ pairs, ∃ cleanup, Cleanup.parse pair.2 = .ok cleanup)
    (hlint : ∀ pair ∈ pairs, Rule.lint pair.1 = [])
    (hfallback : ∃ cleanup, Cleanup.parse fallbackName = .ok cleanup)
    (hhosts : ∀ host ∈ hosts, Url.host? host = none) :
    ∃ created handle specs fallback,
      Handle.create fallbackName = .ok created ∧
      addAll created pairs = .ok handle ∧
      List.Forall₂ (fun pair spec => RuleSpec.parse (pair.1 ++ '=' :: pair.2) = .ok spec)
        pairs specs ∧
      Cleanup.parse fallbackName = .ok fallback ∧
      ∀ json verbose,
        List.Forall₂ (SameAnswers handle) hosts (findings ⟨specs, fallback, hosts, json, verbose⟩) := by
  obtain ⟨specs, hspecs⟩ := exists_names hnames
  obtain ⟨fallback, hfallback⟩ := hfallback
  refine ⟨_, _, specs, fallback, Handle.create_of_parse hfallback, addAll_of_names hspecs _, ?_,
    hfallback, ?_⟩
  · apply hspecs.imp
    intro pair spec ⟨hrule, hcleanup⟩
    rw [RuleSpec.parse_append hcleanup, hrule]
  · intro json verbose
    rw [findings, List.forall₂_map_right_iff, List.forall₂_same]
    intro host hhost
    exact sameAnswers_finding (lint_of_names hspecs hlint) fallback (hhosts host hhost)

theorem handle_agrees_spelled :
    ∃ created handle specs fallback,
      Handle.create "Clear".toList = .ok created ∧
      addAll created [("*.a".toList, "leave".toList), ("a".toList, " Keep".toList),
        ("*.a".toList, "LEAVE".toList)] = .ok handle ∧
      List.Forall₂ (fun pair spec => RuleSpec.parse (pair.1 ++ '=' :: pair.2) = .ok spec)
        [("*.a".toList, "leave".toList), ("a".toList, " Keep".toList),
          ("*.a".toList, "LEAVE".toList)] specs ∧
      Cleanup.parse "Clear".toList = .ok fallback ∧
      ∀ json verbose,
        List.Forall₂ (SameAnswers handle) ["b.A".toList, "a.".toList, "c".toList]
          (findings ⟨specs, fallback, ["b.A".toList, "a.".toList, "c".toList], json, verbose⟩) := by
  apply handle_agrees
  · intro pair hpair
    simp only [List.mem_cons, List.not_mem_nil, or_false] at hpair
    rcases hpair with rfl | rfl | rfl
    · exact ⟨.leave, by decide⟩
    · exact ⟨.never, by decide⟩
    · exact ⟨.leave, by decide⟩
  · decide
  · exact ⟨.instantly, by decide⟩
  · decide

end CleanupRules.Proofs.HandleAgreement
