import Mathlib.Data.List.Infix
import CleanupRules.Proofs.HostAncestry

/-!
Hosts with one owner. On the way up from a host name, and for all names below it, the registrable
domain stays the same; so names are grouped alike wherever on that way the grouping starts.
-/

namespace CleanupRules.Proofs.RegistrableGroups

open Host (isAddress normalize registrable registrableCount registrableLabels)
open HostAncestry

/-- A name in its normal spelling, without empty labels and blanks, and without a suffix that is an
address. -/
structure DomainName (host : Host) : Prop where
  normal : normalize host = host
  labels_ne_nil : ∀ label ∈ Label.split host, label ≠ []
  no_blank : ∀ c ∈ host, Text.isBlank c = false
  no_address : ∀ labels ∈ (Label.split host).tails, labels ≠ [] →
    isAddress (Label.join labels) = false

namespace DomainName

variable {host domain : Host} (h : DomainName host)

include h

theorem isAddress_eq_false_of_suffix (hsuffix : Label.split domain <:+ Label.split host) :
    isAddress domain = false := by
  have hself := h.no_address _ ((List.mem_tails _ _).mpr hsuffix) (Label.split_ne_nil domain)
  rwa [Label.join_split] at hself

theorem split_registrable :
    Label.split (registrable host) = registrableLabels (Label.split host) := by
  have haddress := h.isAddress_eq_false_of_suffix List.suffix_rfl
  rw [← h.normal] at haddress
  rw [Host.split_registrable haddress, h.normal]

theorem of_suffix (hsuffix : Label.split domain <:+ Label.split host) : DomainName domain := by
  have hlabels : ∀ label ∈ Label.split domain, label ≠ [] :=
    fun label hlabel => h.labels_ne_nil label (hsuffix.subset hlabel)
  have htext := Label.suffix_of_split_suffix hsuffix
  have hblank : ∀ c ∈ domain, Text.isBlank c = false :=
    fun c hc => h.no_blank c (htext.subset hc)
  obtain ⟨-, -, hlast, hsmall⟩ := Host.normalize_eq_self_iff.mp h.normal
  refine ⟨Host.normalize_eq_self_iff.mpr ⟨Text.trim_of_no_blank hblank, ?_, ?_, ?_⟩, hlabels,
    hblank, ?_⟩
  · intro hfirst
    obtain ⟨rest, rfl⟩ := List.head?_eq_some_iff.mp hfirst
    exact hlabels [] List.mem_cons_self rfl
  · obtain ⟨front, rfl⟩ := htext
    intro hdot
    rw [List.getLast?_append, hdot] at hlast
    exact hlast rfl
  · intro c hc
    exact hsmall c (htext.subset hc)
  · intro labels htails
    have hmem := (List.mem_tails _ _).mpr (((List.mem_tails _ _).mp htails).trans hsuffix)
    exact h.no_address labels hmem

theorem registrable_of_suffix (hsuffix : Label.split domain <:+ Label.split host)
    (hkept : registrableLabels (Label.split host) <:+ Label.split domain) :
    registrable domain = registrable host := by
  apply Label.split_injective
  rw [(h.of_suffix hsuffix).split_registrable, h.split_registrable]
  obtain ⟨run, hrun⟩ := hsuffix
  rw [← hrun] at hkept ⊢
  exact (Host.registrableLabels_append hkept).symm

theorem ne_nil : host ≠ [] := by
  rintro rfl
  exact h.labels_ne_nil [] List.mem_cons_self rfl

theorem registrable_of_mem_ancestry (hmem : domain ∈ Host.ancestry host) :
    registrable domain = registrable host := by
  obtain ⟨hsuffix, hkept⟩ := (mem_ancestry_iff h.ne_nil h.normal).mp hmem
  rw [h.split_registrable] at hkept
  exact h.registrable_of_suffix hsuffix hkept

end DomainName

theorem registrable_append {host below : Host} (hlength : 3 ≤ (Label.split host).length)
    (h : DomainName (below ++ '.' :: host)) :
    registrable (below ++ '.' :: host) = registrable host := by
  have hsplit := Label.split_append_dot_append below host
  have hsuffix : Label.split host <:+ Label.split (below ++ '.' :: host) := by
    rw [hsplit]
    exact List.suffix_append _ _
  have hkept : registrableLabels (Label.split (below ++ '.' :: host)) <:+ Label.split host := by
    apply List.suffix_of_suffix_length_le (Host.registrableLabels_suffix _) hsuffix
    have hcount := Host.registrableCount_le_three (Label.split (below ++ '.' :: host))
    rw [Host.length_registrableLabels]
    omega
  exact (h.registrable_of_suffix hsuffix hkept).symm

/-- All hosts on the way up from a name have its registrable domain, that domain itself among them,
and so have all longer names that end in a name of three labels or more. -/
theorem registrable_groups {host : Host} (h : DomainName host) :
    (∀ domain ∈ Host.ancestry host, registrable domain = registrable host) ∧
      registrable (registrable host) = registrable host ∧
      (3 ≤ (Label.split host).length → ∀ below : List Char, DomainName (below ++ '.' :: host) →
        registrable (below ++ '.' :: host) = registrable host) := by
  have hlast := List.mem_of_getLast? (getLast?_ancestry h.ne_nil h.normal)
  refine ⟨fun domain hmem => h.registrable_of_mem_ancestry hmem,
    h.registrable_of_mem_ancestry hlast, ?_⟩
  intro hlength below hbelow
  exact registrable_append hlength hbelow

theorem registrable_groups_shared_suffix :
    DomainName "b.example.co.uk".toList ∧
      (∀ domain ∈ Host.ancestry "b.example.co.uk".toList,
        registrable domain = "example.co.uk".toList) ∧
      registrable "example.co.uk".toList = "example.co.uk".toList ∧
      registrable "a.b.example.co.uk".toList = "example.co.uk".toList := by
  have hname : DomainName "b.example.co.uk".toList :=
    ⟨by decide, by decide, by simp; decide, by decide⟩
  have hbelow : DomainName ("a".toList ++ '.' :: "b.example.co.uk".toList) :=
    ⟨by decide, by decide, by simp; decide, by decide⟩
  have hregistrable : registrable "b.example.co.uk".toList = "example.co.uk".toList := by decide
  obtain ⟨hway, hself, hlonger⟩ := registrable_groups hname
  rw [hregistrable] at hway hself hlonger
  exact ⟨hname, hway, hself, hlonger (by decide) _ hbelow⟩

end CleanupRules.Proofs.RegistrableGroups
