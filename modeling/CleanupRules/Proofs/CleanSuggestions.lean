import CleanupRules.Proofs.HostAncestry
import CleanupRules.Proofs.OrdinaryHosts
import CleanupRules.Rule.Suggestion

/-!
Suggested rules have no issues. The way up from an ordinary host only leaves labels out, so every
domain on it is ordinary, and one wildcard in front of ordinary labels repeats none.
-/

namespace CleanupRules.Proofs.CleanSuggestions

open Host (isAddress normalize)
open OrdinaryHosts
open Rule (below lint suggest)

theorem lint_eq_nil {rule : List Char} (hdouble : rule ≠ ['*', '.', '*'])
    (hlabels : ∀ label ∈ Label.split rule, label ≠ Label.wildcard → OrdinaryLabel label)
    (hsingle : ∀ front back,
      Label.split rule ≠ front ++ Label.wildcard :: Label.wildcard :: back) : lint rule = [] := by
  rw [List.eq_nil_iff_forall_not_mem]
  intro issue hissue
  by_cases hkind : issue.kind = .redundantWildcard
  · cases issue with
    | redundantWildcard index =>
        obtain ⟨-, front, back, hsplit, -⟩ := Rule.exists_split_of_redundantWildcard_mem hissue
        exact hsingle front back hsplit
    | _ => contradiction
  · rcases exists_issue_lint_iff.mp ⟨issue, hissue, hkind⟩ with heq | ⟨label, hlabel, hne, hnot⟩
    · exact hdouble heq
    · exact hnot (hlabels label hlabel hne)

theorem wildcard_not_mem_of_ordinary {host : Host} (h : Ordinary host) :
    Label.wildcard ∉ Label.split host := by
  intro hmem
  exact ((h _ hmem).2 '*' (List.mem_singleton_self _)).2.2 rfl

theorem ordinary_of_suffix {host domain : Host} (h : Ordinary host)
    (hsuffix : Label.split domain <:+ Label.split host) : Ordinary domain := by
  intro label hlabel
  exact h label (hsuffix.subset hlabel)

theorem lint_of_ordinary {host : Host} (h : Ordinary host) : lint host = [] := by
  have hnone := wildcard_not_mem_of_ordinary h
  refine lint_eq_nil ?_ (fun label hlabel _ => h label hlabel) ?_
  · rintro rfl
    exact hnone (by decide)
  · intro front back hsplit
    rw [hsplit] at hnone
    simp at hnone

theorem lint_below {domain : Host} (h : Ordinary domain) : lint (below domain) = [] := by
  have hnone := wildcard_not_mem_of_ordinary h
  have hsplit : Label.split (below domain) = Label.wildcard :: Label.split domain :=
    Label.split_append_dot (by decide) domain
  refine lint_eq_nil ?_ ?_ ?_
  · intro heq
    rw [heq] at hsplit
    rw [← List.tail_eq_of_cons_eq hsplit] at hnone
    exact hnone (by decide)
  · intro label hlabel hne
    rw [hsplit] at hlabel
    exact h label ((List.mem_cons.mp hlabel).resolve_left hne)
  · intro front back heq
    rw [hsplit] at heq
    have htail := congrArg List.tail heq
    rw [List.tail_cons] at htail
    rw [htail] at hnone
    cases front <;> simp at hnone

theorem exists_domains_of_suggest {host : Host} (hne : normalize host ≠ []) :
    ∃ domains : List Host, suggest host = normalize host :: domains.map below ∧
      ∀ domain ∈ domains, Label.split domain <:+ Label.split (normalize host) := by
  rw [suggest, if_neg hne]
  split
  · exact ⟨[], rfl, by simp⟩
  split
  · exact ⟨[normalize host], rfl, by simp⟩
  · refine ⟨_, rfl, fun domain hdomain => ?_⟩
    exact (HostAncestry.suffix_of_mem_ancestryFrom (List.mem_of_mem_tail hdomain)).1

section Normal

variable {host : Host} (hlabels : [] ∉ Label.split (normalize host))
  (hblank : ∀ c ∈ normalize host, Text.isBlank c = false)
  (hstar : '*' ∉ normalize host)
  (hcapital : ∀ c ∈ normalize host, 128 ≤ c.toNat → Text.isCapital c = false)

include hlabels hblank hstar hcapital

theorem ordinary_normalize : Ordinary (normalize host) := by
  intro label hlabel
  refine ⟨ne_of_mem_of_not_mem hlabel hlabels, fun c hc => ?_⟩
  have hmem : c ∈ normalize host := (Label.exists_mem_split_iff.mp ⟨label, hlabel, hc⟩).1
  refine ⟨hblank c hmem, ?_, ne_of_mem_of_not_mem hmem hstar⟩
  rcases Nat.lt_or_ge c.toNat 128 with hascii | hbeyond
  · rw [Bool.eq_false_iff]
    intro h
    have hupper := Text.isUpper_of_isCapital hascii h
    rw [Text.isUpper_of_mem_lower hmem] at hupper
    contradiction
  · exact hcapital c hmem hbeyond

/-- A host with labels that are not empty, without blanks and stars, and without capital letters
beyond ASCII gets suggestions, and none of them has an issue. -/
theorem lint_suggest : suggest host ≠ [] ∧ ∀ rule ∈ suggest host, lint rule = [] := by
  have hordinary := ordinary_normalize hlabels hblank hstar hcapital
  have hne : normalize host ≠ [] := by
    intro hnil
    rw [hnil] at hlabels
    exact hlabels (by decide)
  obtain ⟨domains, hsuggest, hdomains⟩ := exists_domains_of_suggest hne
  rw [hsuggest]
  refine ⟨List.cons_ne_nil _ _, fun rule hrule => ?_⟩
  rcases List.mem_cons.mp hrule with rfl | hbelow
  · exact lint_of_ordinary hordinary
  · obtain ⟨domain, hdomain, rfl⟩ := List.mem_map.mp hbelow
    exact lint_below (ordinary_of_suffix hordinary (hdomains domain hdomain))

end Normal

theorem lint_suggest_spelled :
    suggest " .A.b.Wé.co.uk".toList =
        ["a.b.wé.co.uk".toList, "*.b.wé.co.uk".toList, "*.wé.co.uk".toList] ∧
      ∀ rule ∈ suggest " .A.b.Wé.co.uk".toList, lint rule = [] := by
  have hplain : (normalize " .A.b.Wé.co.uk".toList).all
      fun c => !Text.isBlank c && !Text.isCapital c := by decide +kernel
  have hchars : ∀ c ∈ normalize " .A.b.Wé.co.uk".toList,
      Text.isBlank c = false ∧ Text.isCapital c = false := by
    simpa only [Bool.and_eq_true, Bool.not_eq_true'] using List.all_eq_true.mp hplain
  refine ⟨by decide +kernel, ?_⟩
  exact (lint_suggest (by decide +kernel) (fun c hc => (hchars c hc).1) (by decide +kernel)
    (fun c hc _ => (hchars c hc).2)).2

end CleanupRules.Proofs.CleanSuggestions
