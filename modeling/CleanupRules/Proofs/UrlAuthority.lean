import CleanupRules.Url

/-!
Where the host of a URL is found. It belongs behind the last `@` of the authority and before the
end of it. The cut looks for the first `@`, and for the bracket that closes an address wherever that
comes, so the host is in its place exactly if the authority has one `@` at most and closes such a
bracket.
-/

namespace CleanupRules.Proofs.UrlAuthority

open Url (endsAuthority splitHost? splitScheme? splitUser split?)

/-- The authority of a URL, given what follows its `://`. -/
def authority (afterScheme : List Char) : List Char :=
  afterScheme.takeWhile fun c => !endsAuthority c

/-- The host begins right behind the last `@` of the authority, or with the authority if there is
none, and ends within it. -/
def LiesIn (url : Url) (scheme authority : List Char) : Prop :=
  ∃ user beyond, url.lead = scheme ++ user ∧ authority = user ++ (url.host ++ beyond) ∧
    (user = [] ∨ user.getLast? = some '@') ∧ '@' ∉ url.host ++ beyond

/-- A text with room for one host: it holds no `@`, and if it opens with a bracket, it closes
one. -/
def HoldsHost (place : List Char) : Prop :=
  '@' ∉ place ∧ (place.head? = some '[' → ']' ∈ place)

instance (place : List Char) : Decidable (HoldsHost place) :=
  inferInstanceAs (Decidable (_ ∧ _))

theorem host_prefix_iff_of_bracket {place tail host rest : List Char}
    (hbracket : place.head? = some '[')
    (hhost : splitHost? (place ++ tail) = some (host, rest)) :
    host <+: place ↔ ']' ∈ place := by
  constructor
  · intro hprefix
    exact hprefix.subset (Url.close_mem_of_splitHost? (by simp [hbracket]) hhost)
  · intro hclose
    obtain ⟨front, beyond, rfl, hfirst⟩ := List.eq_append_cons_of_mem hclose
    have hopen : (front ++ ']' :: (beyond ++ tail)).head? = some '[' := by
      cases front with
      | nil => simp at hbracket
      | cons c front => exact hbracket
    rw [List.append_assoc, List.cons_append, Url.splitHost?_of_bracket hopen hfirst] at hhost
    obtain ⟨rfl, -⟩ := Prod.mk.inj (Option.some.inj hhost)
    exact ⟨beyond, by simp⟩

section Authority

variable {place tail : List Char} (hplace : ∀ c ∈ place, endsAuthority c = false)
  (htail : ∀ c ∈ tail.head?, endsAuthority c = true)

include hplace htail

theorem splitUser_authority_append :
    splitUser (place ++ tail) = ((splitUser place).1, (splitUser place).2 ++ tail) := by
  by_cases hat : '@' ∈ place
  · obtain ⟨user, rest, rfl, hfirst⟩ := List.eq_append_cons_of_mem hat
    have huser : ∀ c ∈ user, c ≠ '@' ∧ endsAuthority c = false := by
      intro c hc
      exact ⟨ne_of_mem_of_not_mem hc hfirst, hplace c (List.mem_append_left _ hc)⟩
    rw [List.append_assoc, List.cons_append, Url.splitUser_append huser, Url.splitUser_append huser]
  · have hclean : ∀ c ∈ place, c ≠ '@' ∧ endsAuthority c = false := by
      intro c hc
      exact ⟨ne_of_mem_of_not_mem hc hat, hplace c hc⟩
    have halone : splitUser (place ++ []) = ([], place ++ []) :=
      Url.splitUser_of_no_user hclean (by simp)
    rw [List.append_nil] at halone
    rw [Url.splitUser_of_no_user hclean htail, halone]

theorem host_prefix_of_no_bracket {host rest : List Char}
    (hbracket : (place ++ tail).head? ≠ some '[')
    (hhost : splitHost? (place ++ tail) = some (host, rest)) : host <+: place := by
  have hname : ∀ c ∈ place.takeWhile (· ≠ ':'), c ≠ ':' ∧ endsAuthority c = false := by
    intro c hc
    refine ⟨by simpa using List.all_eq_true.mp List.all_takeWhile c hc, ?_⟩
    exact hplace c ((List.takeWhile_prefix _).subset hc)
  have hstop : ∀ c ∈ (place.dropWhile (· ≠ ':') ++ tail).head?,
      c = ':' ∨ endsAuthority c = true := by
    intro c hc
    have hcolon := List.head?_dropWhile_not (fun c => decide (c ≠ ':')) place
    cases hdrop : place.dropWhile (· ≠ ':') with
    | nil =>
        rw [hdrop] at hc
        exact Or.inr (htail c hc)
    | cons first beyond =>
        rw [hdrop] at hc hcolon
        obtain rfl := Option.some.inj hc
        exact Or.inl (by simpa using hcolon)
  have hcut : place.takeWhile (· ≠ ':') ++ (place.dropWhile (· ≠ ':') ++ tail) = place ++ tail := by
    rw [← List.append_assoc, List.takeWhile_append_dropWhile]
  rw [← hcut, Url.splitHost?_of_no_bracket hname hstop (by rwa [hcut])] at hhost
  obtain ⟨rfl, -⟩ := Prod.mk.inj (Option.some.inj hhost)
  exact List.takeWhile_prefix _

theorem host_prefix_iff {host rest : List Char}
    (hhost : splitHost? (place ++ tail) = some (host, rest)) :
    host <+: place ↔ (place.head? = some '[' → ']' ∈ place) := by
  by_cases hbracket : place.head? = some '['
  · rw [host_prefix_iff_of_bracket hbracket hhost]
    simp [hbracket]
  · have hnone : (place ++ tail).head? ≠ some '[' := by
      intro hhead
      cases place with
      | nil => exact absurd (htail '[' hhead) (by decide)
      | cons c place => exact hbracket hhead
    have hprefix := host_prefix_of_no_bracket hplace htail hnone hhost
    simp [hbracket, hprefix]

end Authority

theorem user_eq_nil_or_getLast?_eq (text : List Char) :
    (splitUser text).1 = [] ∨ (splitUser text).1.getLast? = some '@' := by
  rw [splitUser]
  split
  · exact Or.inr (by simp)
  · exact Or.inl rfl

theorem liesIn_iff_place {url : Url} {scheme authority : List Char}
    (hlead : url.lead = scheme ++ (splitUser authority).1) :
    LiesIn url scheme authority ↔
      '@' ∉ (splitUser authority).2 ∧ url.host <+: (splitUser authority).2 := by
  have hcut := Url.append_of_splitUser authority
  constructor
  · rintro ⟨user, beyond, hlead', hauthority, -, hat⟩
    rw [hlead] at hlead'
    have huser := List.append_cancel_left hlead'
    rw [← huser] at hauthority
    have hplace := List.append_cancel_left (hcut.trans hauthority)
    rw [hplace]
    exact ⟨hat, beyond, rfl⟩
  · rintro ⟨hat, beyond, hplace⟩
    refine ⟨_, beyond, hlead, ?_, user_eq_nil_or_getLast?_eq authority, ?_⟩
    · rw [hplace, hcut]
    · rwa [hplace]

/-- A URL has its host in the authority, behind the last `@`, exactly if what follows the first `@`
of the authority holds a host. No delimiter is then part of the host. -/
theorem liesIn_iff {text : List Char} {url : Url} (h : split? text = some url) :
    ∃ scheme afterScheme, splitScheme? text = some (scheme, afterScheme) ∧
      (LiesIn url scheme (authority afterScheme) ↔
        HoldsHost (splitUser (authority afterScheme)).2) ∧
      (LiesIn url scheme (authority afterScheme) →
        ∀ c ∈ url.host, c ≠ '@' ∧ endsAuthority c = false) := by
  obtain ⟨scheme, afterScheme, hscheme, hlead, hhost⟩ := Url.exists_of_split? h
  let tail := afterScheme.dropWhile fun c => !endsAuthority c
  have hclean : ∀ c ∈ authority afterScheme, endsAuthority c = false := by
    intro c hc
    simpa using List.all_eq_true.mp List.all_takeWhile c hc
  have htail : ∀ c ∈ tail.head?, endsAuthority c = true := by
    intro c hc
    have hstop := List.head?_dropWhile_not (fun c => !endsAuthority c) afterScheme
    rw [hc] at hstop
    simpa using hstop
  have huser : splitUser afterScheme = ((splitUser (authority afterScheme)).1,
      (splitUser (authority afterScheme)).2 ++ tail) := by
    rw [← splitUser_authority_append hclean htail, authority, List.takeWhile_append_dropWhile]
  have hplace : ∀ c ∈ (splitUser (authority afterScheme)).2, endsAuthority c = false := by
    intro c hc
    apply hclean
    rw [← Url.append_of_splitUser (authority afterScheme)]
    exact List.mem_append_right _ hc
  rw [huser] at hlead hhost
  refine ⟨scheme, afterScheme, hscheme, ?_, ?_⟩
  · rw [liesIn_iff_place hlead, host_prefix_iff hplace htail hhost, HoldsHost]
  · rintro ⟨user, beyond, -, hauthority, -, hat⟩ c hc
    exact ⟨ne_of_mem_of_not_mem (List.mem_append_left beyond hc) hat,
      hclean c (by simp [hauthority, hc])⟩

theorem liesIn_iff_bracketed :
    ∃ url, split? "http://u:p@[::1]:8/@x".toList = some url ∧ url.host = "[::1]".toList ∧
      LiesIn url "http://".toList "u:p@[::1]:8".toList := by
  have hsplit : split? "http://u:p@[::1]:8/@x".toList =
      some ⟨"http://u:p@".toList, "[::1]".toList, ":8/@x".toList⟩ := rfl
  have hscheme : splitScheme? "http://u:p@[::1]:8/@x".toList =
      some ("http://".toList, "u:p@[::1]:8/@x".toList) := rfl
  obtain ⟨scheme, afterScheme, hscheme', hiff, -⟩ := liesIn_iff hsplit
  rw [hscheme, Option.some.injEq, Prod.mk.injEq] at hscheme'
  rw [← hscheme'.1, ← hscheme'.2] at hiff
  exact ⟨_, hsplit, rfl, hiff.mpr (by decide)⟩

/-- A second `@` becomes part of the host, and so does the path in front of a bracket that closes
only there. -/
theorem host?_outside_authority :
    Url.host? "http://a@b@c/".toList = some "b@c".toList ∧
      Url.host? "http://[/]".toList = some "[/]".toList := by
  decide

end CleanupRules.Proofs.UrlAuthority
