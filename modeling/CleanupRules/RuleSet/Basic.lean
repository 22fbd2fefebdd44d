import CleanupRules.Cleanup
import CleanupRules.Host.Basic
import CleanupRules.Matcher
import CleanupRules.RuleSpec.Basic

/-!
Rule sets: compiled rules in the order of the settings. Of the rules that match a host the most
protective one decides, and among equally protective ones the first.
-/

namespace CleanupRules

structure Entry where
  matcher : Matcher
  cleanup : Cleanup

instance : BEq Entry := ⟨fun a b => a.matcher == b.matcher && a.cleanup == b.cleanup⟩

structure RuleSet where
  entries : List Entry := []
  /-- The type of hosts that no rule matches. -/
  fallback : Cleanup := Cleanup.default

/-- What becomes of a host. -/
structure Decision where
  cleanup : Cleanup
  /-- The position of the rule that decides; none for the fallback. -/
  ruleIndex : Option Nat
  /-- How many rules match. -/
  matched : Nat
  deriving DecidableEq

namespace RuleSet

def empty : RuleSet := {}

def withFallback (fallback : Cleanup) : RuleSet :=
  { fallback := fallback }

def size (set : RuleSet) : Nat :=
  set.entries.length

def isEmpty (set : RuleSet) : Bool :=
  set.entries.isEmpty

def push (set : RuleSet) (matcher : Matcher) (cleanup : Cleanup) : RuleSet :=
  { set with entries := set.entries ++ [⟨matcher, cleanup⟩] }

def setFallback (set : RuleSet) (fallback : Cleanup) : RuleSet :=
  { set with fallback := fallback }

def build (specs : List RuleSpec) (fallback : Cleanup) : RuleSet :=
  ⟨specs.map fun spec => ⟨Matcher.compile spec.rule, spec.cleanup⟩, fallback⟩

/-- The entries that match a host in any spelling, with their positions. -/
def accepting (set : RuleSet) (host : Host) : List (Entry × Nat) :=
  let normal := Host.normalize host
  set.entries.zipIdx.filter fun (entry, _) => entry.matcher.test normal

/-- The entries that match a host, in their order. -/
def matchingEntries (set : RuleSet) (host : Host) : List Entry :=
  (set.accepting host).map Prod.fst

/-- The better one of the best entry so far and the next one; a later entry must protect more. -/
def better (best : Option (Entry × Nat)) (next : Entry × Nat) : Option (Entry × Nat) :=
  match best with
  | none => some next
  | some entry => if next.1.cleanup ≤ entry.1.cleanup then some entry else some next

/-- The first of the most protective entries. -/
def strongest (entries : List (Entry × Nat)) : Option (Entry × Nat) :=
  entries.foldl better none

def decide (set : RuleSet) (host : Host) : Decision :=
  let accepting := set.accepting host
  match strongest accepting with
  | some (entry, index) => ⟨entry.cleanup, some index, accepting.length⟩
  | none => ⟨set.fallback, none, accepting.length⟩

def cleanupFor (set : RuleSet) (host : Host) : Cleanup :=
  (set.decide host).cleanup

/-- Does the data of a host survive the cleanup now? -/
def isProtected (set : RuleSet) (host : Host) (restarting : Bool) : Bool :=
  (set.cleanupFor host).keepsData restarting

@[simp] theorem entries_push (set : RuleSet) (matcher : Matcher) (cleanup : Cleanup) :
    (set.push matcher cleanup).entries = set.entries ++ [⟨matcher, cleanup⟩] := rfl

@[simp] theorem fallback_push (set : RuleSet) (matcher : Matcher) (cleanup : Cleanup) :
    (set.push matcher cleanup).fallback = set.fallback := rfl

@[simp] theorem entries_setFallback (set : RuleSet) (fallback : Cleanup) :
    (set.setFallback fallback).entries = set.entries := rfl

@[simp] theorem size_build (specs : List RuleSpec) (fallback : Cleanup) :
    (build specs fallback).size = specs.length := by
  simp [build, size]

end RuleSet

end CleanupRules
