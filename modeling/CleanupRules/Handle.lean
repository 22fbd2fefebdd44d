import CleanupRules.Rule.Lint
import CleanupRules.RuleSet.Basic

/-!
Rule sets as scripts use them, with texts for all that goes in and out. Rules are taken as they are
spelled; their issues are shown as warnings when they are added.
-/

namespace CleanupRules

/-- A rule set in the hands of a script. -/
structure Handle where
  set : RuleSet

namespace Handle

/-- A handle with a further rule, and the warnings about that rule. -/
structure Added where
  handle : Handle
  warnings : List (List Char)

def readCleanup (name : List Char) : Except (List Char) Cleanup :=
  match Cleanup.parse name with
  | .error error => .error error.message
  | .ok cleanup => .ok cleanup

def create (fallback : List Char) : Except (List Char) Handle :=
  match readCleanup fallback with
  | .error message => .error message
  | .ok cleanup => .ok ⟨RuleSet.withFallback cleanup⟩

def warning (rule : List Char) (issue : Issue) : List Char :=
  "rule ".toList ++ Text.quote rule ++ ": ".toList ++ issue.message

/-- Adds a rule at the end, unless its type cannot be read. -/
def add (handle : Handle) (rule name : List Char) : Except (List Char) Added :=
  match readCleanup name with
  | .error message => .error message
  | .ok cleanup =>
      .ok ⟨⟨handle.set.push (Matcher.compile rule) cleanup⟩, (Rule.lint rule).map (warning rule)⟩

def cleanupFor (handle : Handle) (host : Host) : List Char :=
  (handle.set.cleanupFor host).name

def isProtected (handle : Handle) (host : Host) (restarting : Bool) : Bool :=
  handle.set.isProtected host restarting

/-- The rules that match a host, with the names of their types. -/
def matchingRules (handle : Handle) (host : Host) : List (List Char × List Char) :=
  (handle.set.matchingEntries host).map fun entry => (entry.matcher.rule, entry.cleanup.name)

def size (handle : Handle) : Nat :=
  handle.set.size

def isEmpty (handle : Handle) : Bool :=
  handle.set.isEmpty

theorem create_of_parse {fallback : List Char} {cleanup : Cleanup}
    (h : Cleanup.parse fallback = .ok cleanup) :
    create fallback = .ok ⟨RuleSet.withFallback cleanup⟩ := by
  simp only [create, readCleanup, h]

theorem add_of_parse {name : List Char} {cleanup : Cleanup} (h : Cleanup.parse name = .ok cleanup)
    (handle : Handle) (rule : List Char) :
    handle.add rule name =
      .ok ⟨⟨handle.set.push (Matcher.compile rule) cleanup⟩, (Rule.lint rule).map (warning rule)⟩ := by
  simp only [add, readCleanup, h]

end Handle

end CleanupRules
