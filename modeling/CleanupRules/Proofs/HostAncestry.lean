import Mathlib.Data.List.Chain
import CleanupRules.Host.Ancestry

/-!
The way from a host up its parents. Each step leaves out one label, so what the way ends with is
known from lengths alone.
-/

namespace CleanupRules.Proofs.HostAncestry

open Host (ancestryFrom ancestryFrom_cases ancestryFrom_of_le ancestryFrom_of_lt
  byteLength_lt_of_parent? ne_nil_of_parent? normalize registrable)

theorem suffix_of_mem_ancestryFrom {least : Nat} {host domain : Host}
    (h : domain ∈ ancestryFrom least host) :
    Label.split domain <:+ Label.split host ∧ least ≤ Text.byteLength domain := by
  fun_induction ancestryFrom least host with
  | case1 => contradiction
  | case2 host hlong _ =>
      rw [not_or, Nat.not_lt] at hlong
      rw [List.mem_singleton.mp h]
      exact ⟨List.suffix_rfl, hlong.2⟩
  | case3 host hlong parent hparent ih =>
      rw [not_or, Nat.not_lt] at hlong
      rcases List.mem_cons.mp h with rfl | hmem
      · exact ⟨List.suffix_rfl, hlong.2⟩
      · obtain ⟨hsuffix, hle⟩ := ih hmem
        exact ⟨hsuffix.trans (Host.split_suffix_of_parent? hparent), hle⟩

theorem byteLength_le_of_mem_ancestryFrom {least : Nat} {host domain : Host}
    (h : domain ∈ ancestryFrom least host) : Text.byteLength domain ≤ Text.byteLength host := by
  have hsuffix := Label.suffix_of_split_suffix (suffix_of_mem_ancestryFrom h).1
  exact Text.byteLength_le_of_sublist hsuffix.sublist

theorem isChain_ancestryFrom (least : Nat) (host : Host) :
    (ancestryFrom least host).IsChain fun domain parent => domain.parent? = some parent := by
  rcases ancestryFrom_cases least host with hall | hall | ⟨parent, older, hparent, hrest, hall⟩
  · rw [hall]
    exact List.isChain_nil
  · rw [hall]
    exact List.isChain_singleton _
  · have hchain := isChain_ancestryFrom least parent
    rw [hrest] at hchain
    rw [hall]
    exact List.isChain_cons_cons.mpr ⟨hparent, hchain⟩
termination_by host.length
decreasing_by exact Host.length_lt_of_parent? hparent

theorem getLast?_ancestryFrom_self_iff {least : Nat} {domain : Host} (hne : domain ≠ []) :
    (ancestryFrom least domain).getLast? = some domain ↔
      least ≤ Text.byteLength domain ∧
        ∀ parent, domain.parent? = some parent → Text.byteLength parent < least := by
  by_cases hle : least ≤ Text.byteLength domain
  · rw [ancestryFrom_of_le hne hle]
    cases hparent : domain.parent? with
    | none => simp [hle]
    | some parent =>
        simp only [Option.elim_some, Option.some.injEq, forall_eq', hle, true_and]
        constructor
        · intro hlast
          by_contra hlong
          have hstep := ancestryFrom_of_le (ne_nil_of_parent? hparent) (Nat.not_lt.mp hlong)
          rw [hstep, List.getLast?_cons_cons, ← hstep] at hlast
          have hmem := byteLength_le_of_mem_ancestryFrom (List.mem_of_getLast? hlast)
          exact absurd (byteLength_lt_of_parent? hparent) (Nat.not_lt.mpr hmem)
        · intro hlt
          rw [ancestryFrom_of_lt hlt]
          rfl
  · simp [ancestryFrom_of_lt (Nat.not_le.mp hle), hle]

theorem getLast?_ancestryFrom_parent_iff {least : Nat} {host parent domain : Host}
    (hparent : host.parent? = some parent)
    (hle : Text.byteLength domain ≤ Text.byteLength parent) :
    (ancestryFrom least host).getLast? = some domain ↔
      (ancestryFrom least parent).getLast? = some domain := by
  have hlt := byteLength_lt_of_parent? hparent
  have hne : host ≠ [] := by
    rintro rfl
    simp at hlt
  by_cases hlong : least ≤ Text.byteLength parent
  · rw [ancestryFrom_of_le hne (hlong.trans hlt.le), hparent, Option.elim_some,
      ancestryFrom_of_le (ne_nil_of_parent? hparent) hlong, List.getLast?_cons_cons]
  · have hshort := Nat.not_le.mp hlong
    rw [ancestryFrom_of_lt hshort]
    by_cases hfits : least ≤ Text.byteLength host
    · rw [ancestryFrom_of_le hne hfits, hparent, Option.elim_some, ancestryFrom_of_lt hshort]
      constructor
      · intro hlast
        obtain rfl : host = domain := Option.some.inj hlast
        exact absurd hlt (Nat.not_lt.mpr hle)
      · intro hlast
        contradiction
    · rw [ancestryFrom_of_lt (Nat.not_le.mp hfits)]

theorem getLast?_ancestryFrom_iff {least : Nat} {host domain : Host} (hne : domain ≠ [])
    (hsuffix : Label.split domain <:+ Label.split host) :
    (ancestryFrom least host).getLast? = some domain ↔
      least ≤ Text.byteLength domain ∧
        ∀ parent, domain.parent? = some parent → Text.byteLength parent < least := by
  rw [← getLast?_ancestryFrom_self_iff hne]
  obtain ⟨run, hrun⟩ := hsuffix
  induction run generalizing host with
  | nil =>
      rw [← Label.join_split host, ← hrun, List.nil_append, Label.join_split]
  | cons label run ih =>
      have hlabels : run ++ Label.split domain ≠ [] := by simp [Label.split_ne_nil]
      have hdomain : domain <:+ Label.join (run ++ Label.split domain) := by
        have hjoin := Label.join_suffix run (Label.split_ne_nil domain)
        rwa [Label.join_split] at hjoin
      have hjoin : Label.join (run ++ Label.split domain) ≠ [] := by
        intro hnil
        rw [hnil] at hdomain
        exact hne (List.suffix_nil.mp hdomain)
      have hparent := Host.parent?_of_split hrun.symm hlabels hjoin
      have hle := Text.byteLength_le_of_sublist hdomain.sublist
      rw [getLast?_ancestryFrom_parent_iff hparent hle]
      exact ih (@Label.split_join_of_append host [label] _ hrun.symm hlabels).symm

theorem mem_ancestryFrom_of_suffix {least : Nat} {host domain : Host} (hne : host ≠ [])
    (hlast : host.getLast? ≠ some '.') (hsuffix : Label.split domain <:+ Label.split host)
    (hle : least ≤ Text.byteLength domain) : domain ∈ ancestryFrom least host := by
  fun_induction ancestryFrom least host with
  | case1 host hend =>
      have hdomain := (Label.suffix_of_split_suffix hsuffix).sublist
      have hlength := Text.byteLength_le_of_sublist hdomain
      rcases hend with hnil | hshort
      · exact absurd hnil hne
      · omega
  | case2 host _ hparent =>
      have hdot := Host.no_dot_of_parent?_eq_none hlast hparent
      rw [Label.split_of_no_dot hdot, List.suffix_cons_iff, List.suffix_nil] at hsuffix
      rcases hsuffix with hself | hnil
      · rw [← Label.split_of_no_dot hdot] at hself
        rw [Label.split_injective hself]
        exact List.mem_singleton_self host
      · exact absurd hnil (Label.split_ne_nil domain)
  | case3 host _ parent hparent ih =>
      obtain ⟨label, hsplit⟩ := Host.exists_split_of_parent? hparent
      rw [hsplit, List.suffix_cons_iff, ← hsplit] at hsuffix
      rcases hsuffix with hself | hsuffix
      · rw [Label.split_injective hself]
        exact List.mem_cons_self
      · rw [← Host.getLast?_of_parent? hparent] at hlast
        exact List.mem_cons_of_mem host (ih (ne_nil_of_parent? hparent) hlast hsuffix)

theorem length_ancestryFrom_le (least : Nat) (host : Host) :
    (ancestryFrom least host).length ≤ (Label.split host).length := by
  fun_induction ancestryFrom least host with
  | case1 => exact Nat.zero_le _
  | case2 host _ _ => exact List.length_pos_iff.mpr (Label.split_ne_nil host)
  | case3 host _ parent hparent ih =>
      obtain ⟨label, hsplit⟩ := Host.exists_split_of_parent? hparent
      rw [hsplit]
      exact Nat.succ_le_succ ih

theorem byteLength_le_iff_suffix {host domain outer : Host}
    (hdomain : Label.split domain <:+ Label.split host)
    (houter : Label.split outer <:+ Label.split host) :
    Text.byteLength outer ≤ Text.byteLength domain ↔ Label.split outer <:+ Label.split domain := by
  constructor
  · intro hle
    rcases List.suffix_or_suffix_of_suffix houter hdomain with hsuffix | hsuffix
    · exact hsuffix
    · obtain rfl := Text.eq_of_suffix_of_byteLength_le (Label.suffix_of_split_suffix hsuffix) hle
      exact List.suffix_rfl
  · intro hsuffix
    exact Text.byteLength_le_of_sublist (Label.suffix_of_split_suffix hsuffix).sublist

section Normal

variable {host : Host} (hne : host ≠ []) (hnormal : normalize host = host)

include hne hnormal

theorem mem_ancestry_iff {domain : Host} :
    domain ∈ Host.ancestry host ↔
      Label.split domain <:+ Label.split host ∧
        Label.split (registrable host) <:+ Label.split domain := by
  have hregistrable := Host.registrable_labels_suffix host
  rw [hnormal] at hregistrable
  constructor
  · intro hmem
    obtain ⟨hsuffix, hle⟩ := suffix_of_mem_ancestryFrom hmem
    exact ⟨hsuffix, (byteLength_le_iff_suffix hsuffix hregistrable).mp hle⟩
  · rintro ⟨hsuffix, houter⟩
    have hlast := (Host.normalize_eq_self_iff.mp hnormal).2.2.1
    exact mem_ancestryFrom_of_suffix hne hlast hsuffix
      ((byteLength_le_iff_suffix hsuffix hregistrable).mpr houter)

theorem getLast?_ancestry : (Host.ancestry host).getLast? = some (registrable host) := by
  have hregistrable := Host.registrable_labels_suffix host
  rw [hnormal] at hregistrable
  have hsome : registrable host ≠ [] := Host.registrable_ne_nil (by rwa [hnormal])
  rw [Host.ancestry, getLast?_ancestryFrom_iff hsome hregistrable]
  exact ⟨Nat.le_refl _, fun parent hparent => byteLength_lt_of_parent? hparent⟩

end Normal

/-- The way up ends, with no more stops than the host has labels. It starts at the host and leaves
out one label at a time, and no stop is shorter than the registrable domain. For a normal spelling
the stops are all the suffixes down to the registrable domain, which is the last. -/
theorem ancestry_climbs (host : Host) :
    (Host.ancestry host).length ≤ (Label.split host).length ∧
      (host ≠ [] →
        (Host.ancestry host).head? = some host ∧
          (Host.ancestry host).IsChain
            (fun domain next => ∃ label, '.' ∉ label ∧ domain = label ++ '.' :: next) ∧
          (∀ domain ∈ Host.ancestry host,
            Text.byteLength (registrable host) ≤ Text.byteLength domain) ∧
          (normalize host = host →
            (∀ domain, domain ∈ Host.ancestry host ↔
              Label.split domain <:+ Label.split host ∧
                Label.split (registrable host) <:+ Label.split domain) ∧
              (Host.ancestry host).getLast? = some (registrable host))) := by
  refine ⟨length_ancestryFrom_le _ host, fun hne => ⟨?_, ?_, ?_, ?_⟩⟩
  · rw [Host.ancestry, ancestryFrom_of_le hne (Host.byteLength_registrable_le host)]
    rfl
  · apply (isChain_ancestryFrom _ host).imp
    intro domain next hparent
    exact Host.exists_append_of_parent? hparent
  · intro domain hmem
    exact (suffix_of_mem_ancestryFrom hmem).2
  · intro hnormal
    exact ⟨fun domain => mem_ancestry_iff hne hnormal, getLast?_ancestry hne hnormal⟩

theorem ancestry_climbs_shared_suffix :
    registrable "a.b.co.uk".toList = "b.co.uk".toList ∧
      (Host.ancestry "a.b.co.uk".toList).length ≤ 4 ∧
      (Host.ancestry "a.b.co.uk".toList).head? = some "a.b.co.uk".toList ∧
      (Host.ancestry "a.b.co.uk".toList).getLast? = some "b.co.uk".toList := by
  have hregistrable : registrable "a.b.co.uk".toList = "b.co.uk".toList := by decide
  obtain ⟨hlength, hclimb⟩ := ancestry_climbs "a.b.co.uk".toList
  obtain ⟨hhead, -, -, hnormal⟩ := hclimb (by decide)
  obtain ⟨-, hlast⟩ := hnormal (by decide)
  rw [hregistrable] at hlast
  exact ⟨hregistrable, hlength, hhead, hlast⟩

end CleanupRules.Proofs.HostAncestry
