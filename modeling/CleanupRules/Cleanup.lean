import CleanupRules.Text.Blank
import CleanupRules.Text.Lower
import CleanupRules.Text.Quoted

/-!
Cleanup types: when the data of a host is deleted. They are ordered by how much they protect it.
-/

namespace CleanupRules

/-- When the data of a host is deleted. -/
inductive Cleanup
  | never
  /-- At the next start of the browser. -/
  | startup
  /-- When the host is left. -/
  | leave
  | instantly
  deriving DecidableEq, Repr

namespace Cleanup

/-- All types, from the one that protects most. -/
def all : List Cleanup := [.never, .startup, .leave, .instantly]

/-- The type where nothing else is said. -/
def default : Cleanup := .leave

instance : Inhabited Cleanup := ⟨default⟩

def name : Cleanup → List Char
  | .never => "never".toList
  | .startup => "startup".toList
  | .leave => "leave".toList
  | .instantly => "instantly".toList

/-- The place of a type in `all`. -/
def number : Cleanup → Nat
  | .never => 0
  | .startup => 1
  | .leave => 2
  | .instantly => 3

/-- How much a type protects the data; more is safer. -/
def protection (cleanup : Cleanup) : Nat :=
  3 - cleanup.number

instance : Ord Cleanup := ⟨fun a b => compare a.protection b.protection⟩
instance : LE Cleanup := ⟨fun a b => a.protection ≤ b.protection⟩
instance : LT Cleanup := ⟨fun a b => a.protection < b.protection⟩
instance (a b : Cleanup) : Decidable (a ≤ b) :=
  inferInstanceAs (Decidable (a.protection ≤ b.protection))
instance (a b : Cleanup) : Decidable (a < b) :=
  inferInstanceAs (Decidable (a.protection < b.protection))
instance : Max Cleanup := ⟨fun a b => if a ≤ b then b else a⟩
instance : Min Cleanup := ⟨fun a b => if a ≤ b then a else b⟩

theorem le_iff {a b : Cleanup} : a ≤ b ↔ a.protection ≤ b.protection := Iff.rfl

theorem protection_injective {a b : Cleanup} (h : a.protection = b.protection) : a = b := by
  cases a <;> cases b <;> first | rfl | contradiction

/-- Does the data survive a cleanup now? Startup cleanup happens only when restarting. -/
def keepsData (restarting : Bool) : Cleanup → Bool
  | .never => true
  | .startup => !restarting
  | .leave => false
  | .instantly => false

/-- The type that is written this way, small letters only. -/
def ofName? (name : List Char) : Option Cleanup :=
  all.find? fun cleanup => cleanup.name = name

def aliases : List (List Char × Cleanup) :=
  [("keep".toList, .never), ("restart".toList, .startup), ("instant".toList, .instantly),
   ("clear".toList, .instantly)]

structure UnknownName where
  text : List Char
  deriving DecidableEq

def UnknownName.message (error : UnknownName) : List Char :=
  "Unknown cleanup type: ".toList ++ Text.quote error.text ++
    " (expected never, startup, leave or instantly)".toList

/-- Reads a name or another word for a type; blanks around it and capital letters do not matter. -/
def parse (text : List Char) : Except UnknownName Cleanup :=
  let word := Text.lower (Text.trim text)
  match ofName? word with
  | some cleanup => .ok cleanup
  | none =>
      match aliases.lookup word with
      | some cleanup => .ok cleanup
      | none => .error ⟨text⟩

/-- All words for types, with the types that they are for. -/
def words : List (List Char × Cleanup) :=
  (all.map fun cleanup => (cleanup.name, cleanup)) ++ aliases

theorem mem_words_of_parse {text : List Char} {cleanup : Cleanup} (h : parse text = .ok cleanup) :
    (Text.lower (Text.trim text), cleanup) ∈ words := by
  rw [words, List.mem_append]
  rw [parse] at h
  split at h
  · rename_i found hname
    obtain rfl := Except.ok.inj h
    rw [ofName?] at hname
    have hword := List.find?_some hname
    rw [decide_eq_true_eq] at hword
    rw [← hword]
    exact Or.inl (List.mem_map_of_mem (List.mem_of_find?_eq_some hname))
  split at h
  · rename_i found halias
    obtain rfl := Except.ok.inj h
    obtain ⟨before, after, heq, -⟩ := List.lookup_eq_some_iff.mp halias
    rw [heq]
    exact Or.inr (by simp)
  · contradiction

theorem parse_of_mem_words {text : List Char} {cleanup : Cleanup}
    (h : (Text.lower (Text.trim text), cleanup) ∈ words) : parse text = .ok cleanup := by
  have hfound : ∀ entry ∈ words, ofName? entry.1 = some entry.2 ∨
      ofName? entry.1 = none ∧ aliases.lookup entry.1 = some entry.2 := by
    decide
  rw [parse]
  rcases hfound _ h with hname | ⟨hname, halias⟩
  · simp only [hname]
  · simp only [hname, halias]

theorem parse_eq_ok_iff {text : List Char} {cleanup : Cleanup} :
    parse text = .ok cleanup ↔ (Text.lower (Text.trim text), cleanup) ∈ words :=
  ⟨mem_words_of_parse, parse_of_mem_words⟩

theorem text_of_parse_error {text : List Char} {error : UnknownName}
    (h : parse text = .error error) : error = ⟨text⟩ := by
  rw [parse] at h
  split at h
  · contradiction
  split at h
  · contradiction
  · exact (Except.error.inj h).symm

end Cleanup

end CleanupRules
