import CleanupRules.Label
import CleanupRules.Text.Blank
import CleanupRules.Text.Lower

/-!
Hosts as users and browsers spell them, and the normal spelling in which rules are tested.
-/

namespace CleanupRules

abbrev Host := List Char

namespace Host

/-- Drops one dot at the start, as cookie domains have it. -/
def dropLeadingDot : List Char → List Char
  | '.' :: rest => rest
  | text => text

/-- Drops one dot at the end, as fully qualified names have it. -/
def dropTrailingDot : List Char → List Char
  | [] => []
  | ['.'] => []
  | c :: rest => c :: dropTrailingDot rest

/-- The normal spelling: no blanks around it, at most one dot less at each end, and the letters of
ASCII in small. -/
def normalize (host : Host) : Host :=
  Text.lower (dropTrailingDot (dropLeadingDot (Text.trim host)))

theorem dropLeadingDot_sublist (text : List Char) : (dropLeadingDot text).Sublist text := by
  fun_cases dropLeadingDot text with
  | case1 rest => exact List.sublist_cons_self _ _
  | case2 => exact List.Sublist.refl _

theorem dropTrailingDot_sublist (text : List Char) : (dropTrailingDot text).Sublist text := by
  fun_induction dropTrailingDot text with
  | case1 => exact List.Sublist.refl _
  | case2 => exact List.nil_sublist _
  | case3 c rest _ ih => exact ih.cons_cons c

theorem dropTrailingDot_append_dot (text : List Char) : dropTrailingDot (text ++ ['.']) = text := by
  induction text with
  | nil => rfl
  | cons c rest ih =>
      rw [List.cons_append, dropTrailingDot, ih]
      rintro rfl hrest
      simp at hrest

theorem dropLeadingDot_eq_self_iff {text : List Char} :
    dropLeadingDot text = text ↔ text.head? ≠ some '.' := by
  fun_cases dropLeadingDot text with
  | case1 rest => simp
  | case2 _ hdot =>
      constructor
      · rintro - hhead
        obtain ⟨rest, rfl⟩ := List.head?_eq_some_iff.mp hhead
        exact hdot rest rfl
      · intro _
        rfl

theorem dropTrailingDot_eq_self {text : List Char} (h : text.getLast? ≠ some '.') :
    dropTrailingDot text = text := by
  fun_induction dropTrailingDot text with
  | case1 => rfl
  | case2 => exact absurd rfl h
  | case3 c rest _ ih =>
      cases rest with
      | nil => rfl
      | cons d rest =>
          rw [List.getLast?_cons_cons] at h
          rw [ih h]

theorem dropTrailingDot_eq_self_iff {text : List Char} :
    dropTrailingDot text = text ↔ text.getLast? ≠ some '.' := by
  constructor
  · rintro h hlast
    obtain ⟨front, rfl⟩ := List.getLast?_eq_some_iff.mp hlast
    rw [dropTrailingDot_append_dot] at h
    simpa using congrArg List.length h
  · exact dropTrailingDot_eq_self

theorem normalize_eq_self_iff {host : Host} :
    normalize host = host ↔
      Text.trim host = host ∧ host.head? ≠ some '.' ∧ host.getLast? ≠ some '.' ∧
        ∀ c ∈ host, c.isUpper = false := by
  constructor
  · intro h
    have hlength := congrArg List.length h
    rw [normalize, Text.length_lower] at hlength
    have htrim := Text.trim_sublist host
    have hlead := dropLeadingDot_sublist (Text.trim host)
    have htrail := dropTrailingDot_sublist (dropLeadingDot (Text.trim host))
    have hle := htrim.length_le
    have hle' := hlead.length_le
    have hle'' := htrail.length_le
    have htrim' := htrim.eq_of_length_le (by omega)
    rw [htrim'] at hlead htrail hle' hle'' hlength
    have hlead' := hlead.eq_of_length_le (by omega)
    rw [hlead'] at htrail hle'' hlength
    have htrail' := htrail.eq_of_length_le (by omega)
    refine ⟨htrim', dropLeadingDot_eq_self_iff.mp hlead', dropTrailingDot_eq_self_iff.mp htrail', ?_⟩
    intro c hc
    rw [← h] at hc
    exact Text.isUpper_of_mem_lower hc
  · rintro ⟨htrim, hlead, htrail, hsmall⟩
    rw [normalize, htrim, dropLeadingDot_eq_self_iff.mpr hlead, dropTrailingDot_eq_self htrail,
      Text.lower_of_no_isUpper hsmall]

theorem normalize_between_dots {text : List Char} (h : ∀ c ∈ text, c.isUpper = false) :
    normalize ('.' :: (text ++ ['.'])) = text := by
  have htrim : Text.trim ('.' :: (text ++ ['.'])) = '.' :: (text ++ ['.']) :=
    Text.trimEnd_append_of_not_blank ('.' :: text) (by decide)
  rw [normalize, htrim, dropLeadingDot, dropTrailingDot_append_dot, Text.lower_of_no_isUpper h]

theorem byteLength_normalize_le (host : Host) :
    Text.byteLength (normalize host) ≤ Text.byteLength host := by
  rw [normalize, Text.byteLength_lower]
  apply Text.byteLength_le_of_sublist
  exact (dropTrailingDot_sublist _).trans
    ((dropLeadingDot_sublist _).trans (Text.trim_sublist host))

/-- What follows the first dot, unless that is nothing. -/
def parent? (host : Host) : Option Host :=
  match host.dropWhile (· ≠ '.') with
  | [] => none
  | [_] => none
  | _ :: c :: rest => some (c :: rest)

theorem exists_append_of_parent? {host parent : Host} (h : host.parent? = some parent) :
    ∃ label, '.' ∉ label ∧ host = label ++ '.' :: parent := by
  refine ⟨host.takeWhile (· ≠ '.'), ?_, ?_⟩
  · intro hmem
    have hlabel := List.all_eq_true.mp (List.all_takeWhile (p := (· ≠ '.')) (l := host)) '.' hmem
    simp at hlabel
  · have happend := List.takeWhile_append_dropWhile (p := (· ≠ '.')) (l := host)
    rw [parent?] at h
    split at h
    · contradiction
    · contradiction
    · rename_i first next rest heq
      have hfirst : first = '.' := by
        have hdot := List.head?_dropWhile_not (· ≠ '.') host
        rw [heq] at hdot
        simpa using hdot
      obtain rfl := Option.some.inj h
      subst hfirst
      rw [heq] at happend
      exact happend.symm

theorem length_lt_of_parent? {host parent : Host} (h : host.parent? = some parent) :
    parent.length < host.length := by
  obtain ⟨label, -, rfl⟩ := exists_append_of_parent? h
  simp only [List.length_append, List.length_cons]
  omega

theorem exists_split_of_parent? {host parent : Host} (h : host.parent? = some parent) :
    ∃ label, Label.split host = label :: Label.split parent := by
  obtain ⟨label, hdot, rfl⟩ := exists_append_of_parent? h
  exact ⟨label, Label.split_append_dot hdot parent⟩

theorem split_suffix_of_parent? {host parent : Host} (h : host.parent? = some parent) :
    Label.split parent <:+ Label.split host := by
  obtain ⟨label, hsplit⟩ := exists_split_of_parent? h
  exact ⟨[label], hsplit.symm⟩

theorem byteLength_lt_of_parent? {host parent : Host} (h : host.parent? = some parent) :
    Text.byteLength parent < Text.byteLength host := by
  obtain ⟨label, -, rfl⟩ := exists_append_of_parent? h
  have hdot : 0 < '.'.utf8Size := Char.utf8Size_pos '.'
  rw [Text.byteLength_append, Text.byteLength_cons]
  omega

theorem ne_nil_of_parent? {host parent : Host} (h : host.parent? = some parent) : parent ≠ [] := by
  rw [parent?] at h
  split at h
  · contradiction
  · contradiction
  · obtain rfl := Option.some.inj h
    simp

theorem getLast?_of_parent? {host parent : Host} (h : host.parent? = some parent) :
    parent.getLast? = host.getLast? := by
  have hne := ne_nil_of_parent? h
  obtain ⟨label, -, rfl⟩ := exists_append_of_parent? h
  obtain ⟨c, rest, rfl⟩ := List.exists_cons_of_ne_nil hne
  simp [List.getLast?_append, List.getLast?_cons]

theorem parent?_append_dot {label : Label} (h : '.' ∉ label) {parent : Host} (hne : parent ≠ []) :
    parent? (label ++ '.' :: parent) = some parent := by
  have hlabel : ∀ c ∈ label, decide (c ≠ '.') = true := by
    intro c hc
    exact decide_eq_true (ne_of_mem_of_not_mem hc h)
  obtain ⟨c, rest, rfl⟩ := List.exists_cons_of_ne_nil hne
  rw [parent?, List.dropWhile_append_of_pos hlabel]
  rfl

theorem parent?_of_split {host : Host} {label : Label} {labels : List Label}
    (h : Label.split host = label :: labels) (hlabels : labels ≠ [])
    (hne : Label.join labels ≠ []) : host.parent? = some (Label.join labels) := by
  rw [← Label.join_split host, h, Label.join_cons label hlabels]
  exact parent?_append_dot (Label.no_dot_of_mem_split (h ▸ List.mem_cons_self)) hne

theorem no_dot_of_parent?_eq_none {host : Host} (hlast : host.getLast? ≠ some '.')
    (h : host.parent? = none) : '.' ∉ host := by
  intro hmem
  obtain ⟨label, parent, rfl, hlabel⟩ := List.eq_append_cons_of_mem hmem
  have hne : parent ≠ [] := by
    rintro rfl
    exact hlast (by simp)
  rw [parent?_append_dot hlabel hne] at h
  contradiction

end Host

end CleanupRules
