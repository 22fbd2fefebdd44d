import CleanupRules.Pattern.Basic

/-!
Patterns read from the left. `Pattern.Reaches` relates two offsets; here a pattern is read with what
should hold behind it, so that each of its pieces becomes a condition on the characters ahead. Both
readings agree, by `leads_iff` and `occursIn_iff_leads`.
-/

namespace CleanupRules.Proofs.PatternContinuation

open Pattern

mutual

/-- Between `before` and `rest` begins a stretch that the pattern describes, and `goal` holds where
it ends. -/
def Leads : Pattern → (List Char → List Char → Prop) → List Char → List Char → Prop
  | .only branch, goal, before, rest => BranchLeads branch goal before rest
  | .either branch others, goal, before, rest =>
      BranchLeads branch goal before rest ∨ Leads others goal before rest

def BranchLeads : Branch → (List Char → List Char → Prop) → List Char → List Char → Prop
  | .done, goal, before, rest => goal before rest
  | .char c next, goal, before, rest =>
      ∃ more, rest = c :: more ∧ BranchLeads next goal (before ++ [c]) more
  | .start next, goal, before, rest => before = [] ∧ BranchLeads next goal before rest
  | .finish next, goal, before, rest => rest = [] ∧ BranchLeads next goal before rest
  | .anything next, goal, before, rest =>
      ∃ run more, rest = run ++ more ∧ BranchLeads next goal (before ++ run) more
  | .group body optional next, goal, before, rest =>
      Leads body (BranchLeads next goal) before rest ∨
        optional = true ∧ BranchLeads next goal before rest

end

mutual

theorem reaches_bounds {text : List Char} (pattern : Pattern) {i j : Nat}
    (h : pattern.Reaches text i j) (hi : i ≤ text.length) : i ≤ j ∧ j ≤ text.length := by
  cases pattern with
  | only branch =>
      rw [Pattern.Reaches] at h
      exact branch_reaches_bounds branch h hi
  | either branch others =>
      rw [Pattern.Reaches] at h
      rcases h with h | h
      · exact branch_reaches_bounds branch h hi
      · exact reaches_bounds others h hi

theorem branch_reaches_bounds {text : List Char} (branch : Branch) {i j : Nat}
    (h : branch.Reaches text i j) (hi : i ≤ text.length) : i ≤ j ∧ j ≤ text.length := by
  cases branch with
  | done =>
      rw [Branch.Reaches] at h
      omega
  | char c next =>
      rw [Branch.Reaches] at h
      obtain ⟨hc, h⟩ := h
      have hlt : i < text.length := (List.getElem?_eq_some_iff.mp hc).1
      have := branch_reaches_bounds next h hlt
      omega
  | start next =>
      rw [Branch.Reaches] at h
      exact branch_reaches_bounds next h.2 hi
  | finish next =>
      rw [Branch.Reaches] at h
      exact branch_reaches_bounds next h.2 hi
  | anything next =>
      rw [Branch.Reaches] at h
      obtain ⟨k, hik, hk, h⟩ := h
      have := branch_reaches_bounds next h hk
      omega
  | group body optional next =>
      rw [Branch.Reaches] at h
      obtain ⟨k, hbody, h⟩ := h
      have hk : i ≤ k ∧ k ≤ text.length := by
        rcases hbody with hbody | ⟨_, rfl⟩
        · exact reaches_bounds body hbody hi
        · exact ⟨Nat.le_refl i, hi⟩
      have := branch_reaches_bounds next h hk.2
      omega

end

theorem exists_stretch {before rest : List Char} {k : Nat} (hle : before.length ≤ k)
    (hk : k ≤ (before ++ rest).length) :
    ∃ stretch more, rest = stretch ++ more ∧ k = (before ++ stretch).length := by
  refine ⟨rest.take (k - before.length), rest.drop (k - before.length),
    (List.take_append_drop _ _).symm, ?_⟩
  simp only [List.length_append, List.length_take] at hk ⊢
  omega

mutual

theorem leads_iff (pattern : Pattern) (goal : List Char → List Char → Prop)
    (before rest : List Char) :
    Leads pattern goal before rest ↔
      ∃ stretch more, rest = stretch ++ more ∧
        pattern.Reaches (before ++ rest) before.length (before ++ stretch).length ∧
        goal (before ++ stretch) more := by
  cases pattern with
  | only branch =>
      simp only [Leads, Pattern.Reaches]
      exact branchLeads_iff branch goal before rest
  | either branch others =>
      simp only [Leads, Pattern.Reaches, branchLeads_iff branch, leads_iff others]
      constructor
      · rintro (⟨stretch, more, heq, h, hgoal⟩ | ⟨stretch, more, heq, h, hgoal⟩)
        · exact ⟨stretch, more, heq, Or.inl h, hgoal⟩
        · exact ⟨stretch, more, heq, Or.inr h, hgoal⟩
      · rintro ⟨stretch, more, heq, h | h, hgoal⟩
        · exact Or.inl ⟨stretch, more, heq, h, hgoal⟩
        · exact Or.inr ⟨stretch, more, heq, h, hgoal⟩

theorem branchLeads_iff (branch : Branch) (goal : List Char → List Char → Prop)
    (before rest : List Char) :
    BranchLeads branch goal before rest ↔
      ∃ stretch more, rest = stretch ++ more ∧
        branch.Reaches (before ++ rest) before.length (before ++ stretch).length ∧
        goal (before ++ stretch) more := by
  cases branch with
  | done =>
      simp only [BranchLeads, Branch.Reaches]
      constructor
      · intro h
        exact ⟨[], rest, rfl, by simp, by simpa using h⟩
      · rintro ⟨stretch, more, rfl, hlength, hgoal⟩
        have hstretch : stretch = [] := by
          apply List.eq_nil_of_length_eq_zero
          simp only [List.length_append] at hlength
          omega
        subst hstretch
        simpa using hgoal
  | char c next =>
      simp only [BranchLeads, Branch.Reaches, branchLeads_iff next]
      constructor
      · rintro ⟨_, rfl, stretch, more, rfl, h, hgoal⟩
        refine ⟨c :: stretch, more, rfl, ⟨by simp, ?_⟩, by simpa using hgoal⟩
        simpa using h
      · rintro ⟨stretch, more, rfl, ⟨hc, h⟩, hgoal⟩
        have hlt : before.length < (before ++ stretch).length := by
          have hnext := branch_reaches_bounds next h
            (List.getElem?_eq_some_iff.mp hc).1
          omega
        cases stretch with
        | nil => simp at hlt
        | cons d stretch =>
            have hd : d = c := by simpa using hc
            subst hd
            refine ⟨stretch ++ more, rfl, stretch, more, rfl, ?_, by simpa using hgoal⟩
            simpa using h
  | start next =>
      simp only [BranchLeads, Branch.Reaches, branchLeads_iff next,
        List.length_eq_zero_iff]
      constructor
      · rintro ⟨rfl, stretch, more, heq, h, hgoal⟩
        exact ⟨stretch, more, heq, ⟨rfl, h⟩, hgoal⟩
      · rintro ⟨stretch, more, heq, ⟨hbefore, h⟩, hgoal⟩
        exact ⟨hbefore, stretch, more, heq, h, hgoal⟩
  | finish next =>
      have hend : before.length = (before ++ rest).length ↔ rest = [] := by simp
      simp only [BranchLeads, Branch.Reaches, branchLeads_iff next, hend]
      constructor
      · rintro ⟨hrest, stretch, more, heq, h, hgoal⟩
        exact ⟨stretch, more, heq, ⟨hrest, h⟩, hgoal⟩
      · rintro ⟨stretch, more, heq, ⟨hrest, h⟩, hgoal⟩
        exact ⟨hrest, stretch, more, heq, h, hgoal⟩
  | anything next =>
      simp only [BranchLeads, Branch.Reaches, branchLeads_iff next]
      constructor
      · rintro ⟨run, _, rfl, stretch, more, rfl, h, hgoal⟩
        refine ⟨run ++ stretch, more, by simp, ⟨(before ++ run).length, by simp, by simp, ?_⟩, ?_⟩
        · simpa using h
        · simpa using hgoal
      · rintro ⟨stretch, more, rfl, ⟨k, hle, hk, h⟩, hgoal⟩
        have hend := branch_reaches_bounds next h hk
        obtain ⟨run, stretch, rfl, rfl⟩ := exists_stretch hle hend.1
        refine ⟨run, stretch ++ more, by simp, stretch, more, rfl, ?_, by simpa using hgoal⟩
        simpa using h
  | group body optional next =>
      simp only [BranchLeads, Branch.Reaches, leads_iff body, branchLeads_iff next]
      constructor
      · rintro (⟨run, _, rfl, hbody, stretch, more, rfl, h, hgoal⟩ |
          ⟨hoptional, stretch, more, rfl, h, hgoal⟩)
        · refine ⟨run ++ stretch, more, by simp,
            ⟨(before ++ run).length, Or.inl (by simpa using hbody), ?_⟩, by simpa using hgoal⟩
          simpa using h
        · exact ⟨stretch, more, rfl, ⟨before.length, Or.inr ⟨hoptional, rfl⟩, h⟩, hgoal⟩
      · rintro ⟨stretch, more, rfl, ⟨k, hbody | ⟨hoptional, rfl⟩, h⟩, hgoal⟩
        · have hk := reaches_bounds body hbody (by simp)
          have hend := branch_reaches_bounds next h hk.2
          obtain ⟨run, stretch, rfl, rfl⟩ := exists_stretch hk.1 hend.1
          refine Or.inl ⟨run, stretch ++ more, by simp, by simpa using hbody,
            stretch, more, rfl, ?_, by simpa using hgoal⟩
          simpa using h
        · exact Or.inr ⟨hoptional, stretch, more, rfl, h, hgoal⟩

end

theorem branchLeads_text_iff (literal : List Char) (next : Branch)
    (goal : List Char → List Char → Prop) (before rest : List Char) :
    BranchLeads (Branch.text literal next) goal before rest ↔
      ∃ more, rest = literal ++ more ∧ BranchLeads next goal (before ++ literal) more := by
  induction literal generalizing before rest with
  | nil => simp [Branch.text]
  | cons c literal ih =>
      simp only [Branch.text, BranchLeads, ih]
      constructor
      · rintro ⟨_, rfl, more, rfl, h⟩
        exact ⟨more, rfl, by simpa using h⟩
      · rintro ⟨more, rfl, h⟩
        exact ⟨literal ++ more, rfl, more, rfl, by simpa using h⟩

theorem occursIn_iff_leads (pattern : Pattern) (text : List Char) :
    pattern.OccursIn text ↔
      ∃ before rest, text = before ++ rest ∧ Leads pattern (fun _ _ => True) before rest := by
  constructor
  · rintro ⟨i, j, hi, h⟩
    have hbounds := reaches_bounds pattern h hi
    obtain ⟨before, rest, rfl, rfl⟩ := @exists_stretch [] text i (Nat.zero_le i) hi
    obtain ⟨stretch, more, rfl, rfl⟩ := exists_stretch hbounds.1 hbounds.2
    refine ⟨before, stretch ++ more, rfl, ?_⟩
    exact (leads_iff pattern _ before _).mpr ⟨stretch, more, rfl, h, trivial⟩
  · rintro ⟨before, rest, rfl, h⟩
    obtain ⟨stretch, more, rfl, hreaches, -⟩ := (leads_iff pattern _ before rest).mp h
    exact ⟨before.length, (before ++ stretch).length, by simp, hreaches⟩

end CleanupRules.Proofs.PatternContinuation
