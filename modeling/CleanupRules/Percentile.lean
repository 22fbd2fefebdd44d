/-!
Percentiles of sorted samples by nearest rank.
-/

namespace CleanupRules

/-- The position of the percentile among `count` sorted samples: the least one that has the
fraction `p` of them at or before it, kept within the samples. -/
def percentileIndex (count : Nat) (p : Float) : Nat :=
  min ((Float.ofNat count * p).ceil.toUInt64.toNat - 1) (count - 1)

/-- The percentile of sorted samples, and `zero` if there are none. -/
def percentile {α : Type} (zero : α) (sorted : Array α) (p : Float) : α :=
  sorted[percentileIndex sorted.size p]?.getD zero

theorem percentile_empty {α : Type} (zero : α) (p : Float) : percentile zero #[] p = zero := by
  simp [percentile]

theorem percentile_mem {α : Type} (zero : α) {sorted : Array α} (p : Float)
    (h : sorted ≠ #[]) : percentile zero sorted p ∈ sorted := by
  have hpos : 0 < sorted.size := Array.size_pos_iff.mpr h
  have hlt : percentileIndex sorted.size p < sorted.size := by
    unfold percentileIndex
    omega
  simp [percentile, hlt]

end CleanupRules
