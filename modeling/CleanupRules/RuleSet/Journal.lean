import CleanupRules.RuleSet.Basic

/-!
The journal of a rule set: what is recorded while rules are compiled and hosts are decided.
-/

namespace CleanupRules

namespace Matcher

/-- A rule that cannot be compiled, and what is wrong with the written form of its pattern. -/
structure CompileError where
  rule : List Char
  diagnosis : List Char
  deriving DecidableEq

def CompileError.message (error : CompileError) : List Char :=
  "Rule ".toList ++ Text.quote error.rule ++ " failed to compile: ".toList ++ error.diagnosis

end Matcher

namespace RuleSet

inductive Record
  /-- A rule that will never match. -/
  | degraded (error : Matcher.CompileError)
  | built (size : Nat) (fallback : Cleanup)
  /-- A host in its normal spelling, and how many rules match it. -/
  | decided (host : Host) (matched : Nat)
  deriving DecidableEq

def Record.line : Record → List Char
  | .degraded error => "WARN ".toList ++ error.message ++ "; the rule will never match".toList
  | .built size fallback =>
      s!"DEBUG built rule set with {size} rule(s), fallback ".toList ++ fallback.name
  | .decided host matched =>
      "DEBUG host ".toList ++ Text.quote host ++ s!": {matched} matching rule(s)".toList

/-- An answer with what is recorded while it is found. -/
structure Recorded (α : Type) where
  answer : α
  records : List Record

def Recorded.map {α β : Type} (f : α → β) (recorded : Recorded α) : Recorded β :=
  ⟨f recorded.answer, recorded.records⟩

/-- Compiles a rule. What is wrong with a written form that cannot be read is for `diagnose` to
say. -/
def compileRecorded (diagnose : List Char → List Char) (rule : List Char) : Recorded Matcher :=
  match Matcher.compile? rule with
  | some matcher => ⟨matcher, []⟩
  | none =>
      ⟨.never rule (Rule.source rule), [.degraded ⟨rule, diagnose (Rule.source rule)⟩]⟩

def buildRecorded (diagnose : List Char → List Char) (specs : List RuleSpec)
    (fallback : Cleanup) : Recorded RuleSet :=
  let compiled := specs.map fun spec => compileRecorded diagnose spec.rule
  let set := build specs fallback
  ⟨set, compiled.flatMap (·.records) ++ [.built set.size fallback]⟩

def decideRecorded (set : RuleSet) (host : Host) : Recorded Decision :=
  let decision := set.decide host
  ⟨decision, [.decided (Host.normalize host) decision.matched]⟩

def cleanupForRecorded (set : RuleSet) (host : Host) : Recorded Cleanup :=
  (set.decideRecorded host).map (·.cleanup)

def isProtectedRecorded (set : RuleSet) (host : Host) (restarting : Bool) : Recorded Bool :=
  (set.cleanupForRecorded host).map (·.keepsData restarting)

end RuleSet

end CleanupRules
