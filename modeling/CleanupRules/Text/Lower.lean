import CleanupRules.Text.Bytes

/-!
Small letters. Only the letters of ASCII have two sizes here.
-/

namespace CleanupRules.Text

/-- Capital letters of ASCII become small; every other character stays. -/
def lower (text : List Char) : List Char :=
  text.map Char.toLower

@[simp] theorem length_lower (text : List Char) : (lower text).length = text.length := by
  simp [lower]

theorem isUpper_iff {c : Char} : c.isUpper = true ↔ 65 ≤ c.toNat ∧ c.toNat ≤ 90 := by
  have hrange : c.isUpper = true ↔ 'A'.val ≤ c.val ∧ c.val ≤ 'Z'.val := decide_eq_true_iff
  rw [hrange, UInt32.le_iff_toNat_le, UInt32.le_iff_toNat_le]
  rfl

theorem toNat_toLower_of_isUpper {c : Char} (h : c.isUpper = true) :
    c.toLower.toNat = c.toNat + 32 := by
  have hlower : c.toLower.val = c.val + ('a'.val - 'A'.val) :=
    congrArg Char.val (dif_pos (of_decide_eq_true h))
  have hstep : ('a'.val - 'A'.val).toNat = 32 := rfl
  have hlast : c.val.toNat ≤ 90 := (isUpper_iff.mp h).2
  calc
    c.toLower.val.toNat = (c.val.toNat + 32) % 2 ^ 32 := by rw [hlower, UInt32.toNat_add, hstep]
    _ = c.val.toNat + 32 := by omega

theorem toLower_of_not_isUpper {c : Char} (h : c.isUpper = false) : c.toLower = c :=
  dif_neg (of_decide_eq_false h)

theorem isLower_iff {c : Char} : c.isLower = true ↔ 97 ≤ c.toNat ∧ c.toNat ≤ 122 := by
  change (decide ('a'.val ≤ c.val) && decide (c.val ≤ 'z'.val)) = true ↔ _
  rw [Bool.and_eq_true, decide_eq_true_iff, decide_eq_true_iff]
  exact and_congr UInt32.le_iff_toNat_le UInt32.le_iff_toNat_le

theorem toNat_toUpper_of_isLower {c : Char} (h : c.isLower = true) :
    c.toUpper.toNat = c.toNat - 32 := by
  obtain ⟨hfirst, hlast⟩ : 97 ≤ c.val.toNat ∧ c.val.toNat ≤ 122 := isLower_iff.mp h
  have hrange : 'a'.val ≤ c.val ∧ c.val ≤ 'z'.val :=
    ⟨UInt32.le_iff_toNat_le.mpr hfirst, UInt32.le_iff_toNat_le.mpr hlast⟩
  have hupper : c.toUpper.val = c.val + ('A'.val - 'a'.val) := by
    delta Char.toUpper
    rw [dif_pos hrange]
  have hstep : ('A'.val - 'a'.val).toNat = 4294967264 := rfl
  calc
    c.toUpper.val.toNat = (c.val.toNat + 4294967264) % 2 ^ 32 := by
      rw [hupper, UInt32.toNat_add, hstep]
    _ = c.val.toNat - 32 := by omega

theorem toLower_toUpper_of_isLower {c : Char} (h : c.isLower = true) : c.toUpper.toLower = c := by
  have hcode := toNat_toUpper_of_isLower h
  rw [isLower_iff] at h
  have hcapital : c.toUpper.isUpper = true := isUpper_iff.mpr (by omega)
  have hlower := toNat_toLower_of_isUpper hcapital
  exact Char.toNat_inj.mp (by omega)

theorem isUpper_toLower (c : Char) : c.toLower.isUpper = false := by
  cases h : c.isUpper with
  | false => rw [toLower_of_not_isUpper h, h]
  | true =>
      rw [Bool.eq_false_iff, ne_eq, isUpper_iff, toNat_toLower_of_isUpper h]
      rw [isUpper_iff] at h
      omega

theorem lower_of_no_isUpper {text : List Char} (h : ∀ c ∈ text, c.isUpper = false) :
    lower text = text := by
  rw [lower, List.map_congr_left fun c hc => toLower_of_not_isUpper (h c hc), List.map_id']

theorem isUpper_of_mem_lower {text : List Char} {c : Char} (h : c ∈ lower text) :
    c.isUpper = false := by
  obtain ⟨d, -, rfl⟩ := List.mem_map.mp h
  exact isUpper_toLower d

theorem utf8Size_toLower (c : Char) : c.toLower.utf8Size = c.utf8Size := by
  cases h : c.isUpper with
  | false => rw [toLower_of_not_isUpper h]
  | true =>
      have hone : ∀ d : Char, d.toNat ≤ 127 → d.utf8Size = 1 := by
        intro d hd
        rw [Char.utf8Size_eq_one_iff, UInt32.le_iff_toNat_le]
        exact hd
      have hlast := (isUpper_iff.mp h).2
      rw [hone c (by omega), hone c.toLower (by rw [toNat_toLower_of_isUpper h]; omega)]

@[simp] theorem byteLength_lower (text : List Char) :
    byteLength (lower text) = byteLength text := by
  induction text with
  | nil => rfl
  | cons c text ih =>
      rw [lower, List.map_cons, byteLength_cons, utf8Size_toLower, byteLength_cons]
      exact congrArg (c.utf8Size + ·) ih

end CleanupRules.Text
