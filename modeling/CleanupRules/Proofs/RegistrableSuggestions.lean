import Mathlib.Data.List.Chain
import CleanupRules.Proofs.HostAncestry
import CleanupRules.Rule.Suggestion

/-!
Where the suggestions for a host end. They go up the parents of the normal spelling, down to the
length of a registrable domain for which that spelling is normalized once more. If this changes the
length by a label, the last suggestion is not made from the registrable domain of the host.
-/

namespace CleanupRules.Proofs.RegistrableSuggestions

open Host (isAddress normalize registrable)
open HostAncestry

/-- The registrable domain is long enough for the length at which the suggestions end, and its
parent is not. -/
def Settled (host : Host) : Prop :=
  Text.byteLength (registrable (normalize host)) ≤ Text.byteLength (registrable host) ∧
    ∀ parent, (registrable host).parent? = some parent →
      Text.byteLength parent < Text.byteLength (registrable (normalize host))

theorem settled_of_normalize_eq {host : Host}
    (h : normalize (normalize host) = normalize host) : Settled host := by
  have hsame : registrable (normalize host) = registrable host := by
    rw [registrable, h, registrable]
  rw [Settled, hsame]
  exact ⟨Nat.le_refl _, fun parent hparent => Host.byteLength_lt_of_parent? hparent⟩

section Name

variable {host : Host} (hne : normalize host ≠ []) (haddress : isAddress (normalize host) = false)

include hne haddress

theorem exists_domains :
    ∃ domains : List Host, Rule.suggest host = normalize host :: domains.map Rule.below ∧
      domains.getLast? = (Host.ancestry (normalize host)).getLast? ∧
      (domains = [normalize host] ∨
        (normalize host :: domains).IsChain fun domain parent => domain.parent? = some parent) := by
  have hstart := Host.ancestryFrom_of_le hne (Host.byteLength_registrable_le (normalize host))
  have hchain := isChain_ancestryFrom
    (Text.byteLength (registrable (normalize host))) (normalize host)
  rw [Rule.suggest, if_neg hne, if_neg (by simp [haddress]), Host.ancestry]
  rw [hstart] at hchain ⊢
  generalize (normalize host).parent?.elim [] _ = parents at *
  cases parents with
  | nil => exact ⟨[normalize host], rfl, rfl, Or.inl rfl⟩
  | cons parent older =>
      exact ⟨parent :: older, rfl, List.getLast?_cons_cons.symm, Or.inr hchain⟩

/-- A name gets itself and, with everything below them, its parents in turn, or again itself if it
has none that is long enough. The last of these domains is the registrable domain exactly for
settled names, and so for every name that needs no second normalization. -/
theorem suggest_ends_iff :
    ∃ domains : List Host, Rule.suggest host = normalize host :: domains.map Rule.below ∧
      (domains = [normalize host] ∨
        (normalize host :: domains).IsChain fun domain parent => domain.parent? = some parent) ∧
      (domains.getLast? = some (registrable host) ↔ Settled host) ∧
      (normalize (normalize host) = normalize host →
        domains.getLast? = some (registrable host)) := by
  obtain ⟨domains, hsuggest, hlast, hchain⟩ := exists_domains hne haddress
  have hsettled : domains.getLast? = some (registrable host) ↔ Settled host := by
    rw [hlast]
    exact getLast?_ancestryFrom_iff (Host.registrable_ne_nil hne)
      (Host.split_registrable_suffix haddress)
  exact ⟨domains, hsuggest, hchain, hsettled,
    fun hnormal => hsettled.mpr (settled_of_normalize_eq hnormal)⟩

end Name

theorem suggest_ends_shared_suffix :
    normalize " A.b.Example.co.uk.".toList = "a.b.example.co.uk".toList ∧
      ∃ domains : List Host, Rule.suggest " A.b.Example.co.uk.".toList =
          "a.b.example.co.uk".toList :: domains.map Rule.below ∧
        domains.getLast? = some "example.co.uk".toList := by
  have hnormal : normalize " A.b.Example.co.uk.".toList = "a.b.example.co.uk".toList := by decide
  obtain ⟨domains, hsuggest, -, -, hlast⟩ :=
    @suggest_ends_iff " A.b.Example.co.uk.".toList (by decide) (by decide)
  rw [hnormal] at hsuggest hlast
  exact ⟨hnormal, domains, hsuggest, hlast (by decide)⟩

/-- With a second dot in front the last suggestion lies beyond the registrable domain, and with a
second dot at the end it comes short of it. -/
theorem suggest_beside_registrable :
    (registrable "..a".toList = ".a".toList ∧
        Rule.suggest "..a".toList = [".a".toList, "*.a".toList]) ∧
      registrable "www.a.com..".toList = "com.".toList ∧
        Rule.suggest "www.a.com..".toList = ["www.a.com.".toList, "*.a.com.".toList] := by
  decide +kernel

end CleanupRules.Proofs.RegistrableSuggestions
