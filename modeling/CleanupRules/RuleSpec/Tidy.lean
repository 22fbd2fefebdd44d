import CleanupRules.RuleSpec.Basic

/-!
Tidying a list of rules: blanks around rules go, and with them the rules that are empty then and all
but the first of equal ones. The same rule with another type is not equal.
-/

namespace CleanupRules.RuleSpec

/-- The rule without the blanks around it. -/
def trimmed (spec : RuleSpec) : RuleSpec :=
  { spec with rule := Text.trim spec.rule }

/-- What is left of a list of rules, and how many rules went. -/
structure Thinned where
  kept : List RuleSpec := []
  dropped : Nat := 0

/-- Passes one more rule. Whether it is kept may depend on the rules kept so far. -/
def Thinned.add (keeps : List RuleSpec → RuleSpec → Bool) (thinned : Thinned)
    (spec : RuleSpec) : Thinned :=
  if keeps thinned.kept spec then { thinned with kept := thinned.kept ++ [spec] }
  else { thinned with dropped := thinned.dropped + 1 }

def thin (keeps : List RuleSpec → RuleSpec → Bool) (specs : List RuleSpec) : Thinned :=
  specs.foldl (Thinned.add keeps) {}

/-- The rules that are not empty without the blanks around them. -/
def nonempty (specs : List RuleSpec) : Thinned :=
  thin (fun _ spec => spec.rule ≠ []) (specs.map trimmed)

/-- The first ones of equal rules that are not empty. -/
def different (specs : List RuleSpec) : Thinned :=
  thin (fun kept spec => spec ∉ kept) (nonempty specs).kept

/-- The different rules of a list, in the order in which they first occur. -/
def tidy (specs : List RuleSpec) : List RuleSpec :=
  (different specs).kept

/-- How many rules there were and are, and why the others went. -/
structure TidyCounts where
  before : Nat
  after : Nat
  empty : Nat
  repeated : Nat
  deriving DecidableEq

def tidyCounts (specs : List RuleSpec) : TidyCounts where
  before := specs.length
  after := (tidy specs).length
  empty := (nonempty specs).dropped
  repeated := (different specs).dropped

theorem thin_append_singleton (keeps : List RuleSpec → RuleSpec → Bool) (specs : List RuleSpec)
    (spec : RuleSpec) : thin keeps (specs ++ [spec]) = (thin keeps specs).add keeps spec := by
  simp [thin]

end CleanupRules.RuleSpec
