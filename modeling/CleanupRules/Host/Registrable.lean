import CleanupRules.Host.Address

/-!
The registrable domain of a host: the part that one party owns. It has two labels, or three under a
suffix of two labels below which names are registered.
-/

namespace CleanupRules.Host

/-- The suffixes of two labels below which names are registered. -/
def sharedSuffixes : List (List Char) :=
  ["co.uk", "co.jp", "co.nz", "co.za", "co.in", "co.kr",
   "com.au", "com.br", "com.cn", "com.mx", "com.tw", "com.hk",
   "net.au", "net.nz", "org.uk", "org.au", "gov.uk", "gov.au",
   "ac.uk", "ac.jp", "ne.jp", "or.jp"].map String.toList

/-- How many labels at the end of a host its registrable domain takes. -/
def registrableCount (labels : List Label) : Nat :=
  if Label.join (labels.drop (labels.length - 2)) ∈ sharedSuffixes then 3 else 2

/-- The last labels that form the registrable domain; all of them if there are no more than two. -/
def registrableLabels (labels : List Label) : List Label :=
  labels.drop (labels.length - registrableCount labels)

/-- The registrable domain of a host in any spelling; an address is its own. -/
def registrable (host : Host) : Host :=
  let normal := normalize host
  if isAddress normal then normal
  else Label.join (registrableLabels (Label.split normal))

theorem registrable_of_name {host : Host} (h : isAddress (normalize host) = false) :
    registrable host = Label.join (registrableLabels (Label.split (normalize host))) := by
  simp [registrable, h]

theorem two_le_registrableCount (labels : List Label) : 2 ≤ registrableCount labels := by
  rw [registrableCount]
  split
  · decide
  · decide

theorem registrableCount_le_three (labels : List Label) : registrableCount labels ≤ 3 := by
  rw [registrableCount]
  split
  · decide
  · decide

theorem registrableCount_append (run : List Label) {labels : List Label}
    (h : 2 ≤ labels.length) : registrableCount (run ++ labels) = registrableCount labels := by
  have hlength : (run ++ labels).length - 2 = run.length + (labels.length - 2) := by
    rw [List.length_append]
    omega
  rw [registrableCount, registrableCount, hlength, List.drop_length_add_append]

theorem registrableLabels_suffix (labels : List Label) : registrableLabels labels <:+ labels :=
  List.drop_suffix _ _

theorem length_registrableLabels (labels : List Label) :
    (registrableLabels labels).length = min labels.length (registrableCount labels) := by
  rw [registrableLabels, List.length_drop]
  omega

/-- Labels in front do not matter as long as they do not belong to the registrable domain. -/
theorem registrableLabels_append {run labels : List Label}
    (h : registrableLabels (run ++ labels) <:+ labels) :
    registrableLabels (run ++ labels) = registrableLabels labels := by
  have hcount := two_le_registrableCount (run ++ labels)
  have hle := h.length_le
  rw [length_registrableLabels, List.length_append] at hle
  by_cases hshort : run.length + labels.length ≤ registrableCount (run ++ labels)
  · have hrun : run = [] := List.eq_nil_of_length_eq_zero (by omega)
    rw [hrun, List.nil_append]
  · have hsame := registrableCount_append run (show 2 ≤ labels.length by omega)
    have hlength : (run ++ labels).length - registrableCount (run ++ labels) =
        run.length + (labels.length - registrableCount labels) := by
      rw [List.length_append, hsame]
      omega
    rw [registrableLabels, hlength, List.drop_length_add_append, registrableLabels]

theorem registrableLabels_ne_nil {labels : List Label} (h : labels ≠ []) :
    registrableLabels labels ≠ [] := by
  have hcount := two_le_registrableCount labels
  have hlength := List.length_pos_iff.mpr h
  rw [registrableLabels, ne_eq, List.drop_eq_nil_iff]
  omega

theorem split_registrable {host : Host} (h : isAddress (normalize host) = false) :
    Label.split (registrable host) = registrableLabels (Label.split (normalize host)) := by
  have hcut := (List.take_append_drop ((Label.split (normalize host)).length -
    registrableCount (Label.split (normalize host))) (Label.split (normalize host))).symm
  rw [registrable_of_name h]
  exact Label.split_join_of_append hcut (registrableLabels_ne_nil (Label.split_ne_nil _))

theorem split_registrable_suffix {host : Host} (h : isAddress (normalize host) = false) :
    Label.split (registrable host) <:+ Label.split (normalize host) := by
  rw [split_registrable h]
  exact registrableLabels_suffix _

theorem registrable_labels_suffix (host : Host) :
    Label.split (registrable host) <:+ Label.split (normalize host) := by
  cases h : isAddress (normalize host) with
  | true => simp [registrable, h]
  | false => exact split_registrable_suffix h

theorem registrable_suffix (host : Host) : registrable host <:+ normalize host :=
  Label.suffix_of_split_suffix (registrable_labels_suffix host)

theorem byteLength_registrable_le (host : Host) :
    Text.byteLength (registrable host) ≤ Text.byteLength host :=
  Nat.le_trans (Text.byteLength_le_of_sublist (registrable_suffix host).sublist)
    (byteLength_normalize_le host)

theorem registrable_ne_nil {host : Host} (hne : normalize host ≠ []) : registrable host ≠ [] := by
  cases h : isAddress (normalize host) with
  | true => simpa [registrable, h] using hne
  | false =>
      intro hnil
      have hlabels := split_registrable h
      have hcount := two_le_registrableCount (Label.split (normalize host))
      rw [hnil, registrableLabels] at hlabels
      have hlength := congrArg List.length hlabels
      simp only [Label.split, List.length_singleton, List.length_drop] at hlength
      have hall : (Label.split (normalize host)).length -
          registrableCount (Label.split (normalize host)) = 0 := by omega
      rw [hall, List.drop_zero] at hlabels
      apply hne
      rw [← Label.join_split (normalize host), ← hlabels]
      rfl

end CleanupRules.Host
