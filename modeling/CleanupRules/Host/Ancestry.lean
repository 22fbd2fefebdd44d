import CleanupRules.Host.Registrable
import CleanupRules.Text.Bytes

/-!
The ancestry of a host: the host itself, its parent, the parent of that, and so on as long as they
are not shorter than the registrable domain.
-/

namespace CleanupRules.Host

/-- The host and its parents, as long as they are not empty and take at least `least` bytes. -/
def ancestryFrom (least : Nat) (host : Host) : List Host :=
  if host = [] ∨ Text.byteLength host < least then []
  else
    match _parent : host.parent? with
    | none => [host]
    | some parent => host :: ancestryFrom least parent
termination_by host.length
decreasing_by exact length_lt_of_parent? _parent

/-- The host as it is spelled, then its parents down to the length of its registrable domain. -/
def ancestry (host : Host) : List Host :=
  ancestryFrom (Text.byteLength (registrable host)) host

theorem ancestryFrom_eq_nil_or_cons (least : Nat) (host : Host) :
    ancestryFrom least host = [] ∨ ∃ older, ancestryFrom least host = host :: older := by
  rw [ancestryFrom]
  split
  · exact Or.inl rfl
  · split
    · exact Or.inr ⟨_, rfl⟩
    · exact Or.inr ⟨_, rfl⟩

theorem ancestryFrom_cases (least : Nat) (host : Host) :
    ancestryFrom least host = [] ∨ ancestryFrom least host = [host] ∨
      ∃ parent older, host.parent? = some parent ∧
        ancestryFrom least parent = parent :: older ∧
        ancestryFrom least host = host :: parent :: older := by
  rw [ancestryFrom]
  split
  · exact Or.inl rfl
  · split
    · exact Or.inr (Or.inl rfl)
    · rename_i parent hparent
      rcases ancestryFrom_eq_nil_or_cons least parent with hnil | ⟨older, holder⟩
      · exact Or.inr (Or.inl (by rw [hnil]))
      · exact Or.inr (Or.inr ⟨parent, older, hparent, holder, by rw [holder]⟩)

theorem ancestryFrom_of_lt {least : Nat} {host : Host} (hlt : Text.byteLength host < least) :
    ancestryFrom least host = [] := by
  rw [ancestryFrom, if_pos (Or.inr hlt)]

theorem ancestryFrom_of_le {least : Nat} {host : Host} (hne : host ≠ [])
    (hle : least ≤ Text.byteLength host) :
    ancestryFrom least host = host :: host.parent?.elim [] (ancestryFrom least) := by
  rw [ancestryFrom, if_neg (by simp [hne, hle])]
  split
  · rename_i hparent
    rw [hparent]
    rfl
  · rename_i parent hparent
    rw [hparent]
    rfl

end CleanupRules.Host
