import CleanupRules.CommandLine.Command
import CleanupRules.Json.Document
import CleanupRules.Rule.Lint
import CleanupRules.Rule.Suggestion
import CleanupRules.RuleSet.Basic
import CleanupRules.RuleSpec.Tidy
import CleanupRules.Url

/-!
What the commands print, and how they end.
-/

namespace CleanupRules.CommandLine

/-- Why a command fails after its arguments have been read. -/
inductive Failure
  | uncompiled (rule : List Char)
  | noHost
  | noIterations
  deriving DecidableEq

def Failure.message : Failure → List Char
  | .uncompiled rule => "Rule '".toList ++ rule ++ "' could not be compiled".toList
  | .noHost => "No host given".toList
  | .noIterations => "Iterations must be greater than zero".toList

/-- The lines that a command prints, unless it fails. -/
abbrev Printed := Except Failure (List (List Char))

def patternLines (rules : List (List Char)) : List (List Char) :=
  rules.map fun rule => Text.pad .left 24 rule ++ ' ' :: Rule.source rule

def testLines (rule : List Char) (candidates : List (List Char)) : Printed :=
  let matcher := Matcher.compile rule
  let verdict := fun candidate =>
    if matcher.test candidate then "match".toList else "no match".toList
  if !matcher.isCompiled then .error (.uncompiled rule)
  else
    .ok (("Rule:    ".toList ++ rule) :: ("Pattern: ".toList ++ matcher.source) ::
      candidates.map fun candidate =>
        ' ' :: ' ' :: Text.pad .left 8 (verdict candidate) ++ ' ' :: candidate)

/-- An issue as JSON: its kind and what it is about. -/
def issueDocument (issue : Issue) : Json.Document :=
  let detail :=
    match issue with
    | .emptyLabel index => [("index".toList, .number index)]
    | .redundantWildcard index => [("index".toList, .number index)]
    | .embeddedWildcard label => [("label".toList, .text label)]
    | .empty => []
    | .whitespace => []
    | .uppercase => []
    | .noOrdinaryHost => []
  .object (("kind".toList, .text issue.kind.name.toList) :: detail)

def lintDocument (rules : List (List Char)) : Json.Document :=
  .array (rules.map fun rule =>
    .object [("rule".toList, .text rule),
      ("issues".toList, .array ((Rule.lint rule).map issueDocument))])

def lintLines (rule : List Char) : List (List Char) :=
  match Rule.lint rule with
  | [] => [rule ++ ": ok".toList]
  | issues =>
      (rule ++ [':']) :: issues.map fun issue => "  - ".toList ++ issue.message

def suggestLines (host : List Char) : Printed :=
  match Rule.suggest (Url.hostOf host) with
  | [] => .error .noHost
  | rules => .ok rules

/-- What the command `decide` finds for one host. -/
structure Finding where
  host : Host
  cleanup : Cleanup
  /-- The rule that decides; none for the fallback. -/
  rule : Option (List Char)
  matched : Nat
  deriving DecidableEq

/-- What a rule set says of a host or the host of a URL. -/
def finding (set : RuleSet) (input : List Char) : Finding :=
  let host := Url.hostOf input
  let decision := set.decide host
  { host := host
    cleanup := decision.cleanup
    rule := do
      let index ← decision.ruleIndex
      let entry ← set.entries[index]?
      pure entry.matcher.rule
    matched := decision.matched }

def Finding.document (finding : Finding) : Json.Document :=
  .object [("host".toList, .text finding.host), ("cleanup_type".toList, .text finding.cleanup.name),
    ("rule".toList, finding.rule.elim .null .text), ("matched".toList, .number finding.matched)]

def Finding.line (finding : Finding) : List Char :=
  Text.pad .left 32 finding.host ++ ' ' :: Text.pad .left 10 finding.cleanup.name ++
    match finding.rule with
    | some rule => " (rule '".toList ++ rule ++ s!"', {finding.matched} matching)".toList
    | none => " (fallback)".toList

/-- What is known of the rules before they are used. -/
def ruleNotes (specs : List RuleSpec) : List (List Char) :=
  let counts := RuleSpec.tidyCounts specs
  (s!"Rules: {counts.before} -> {counts.after} " ++
      s!"(empty {counts.empty}, dedupe removed {counts.repeated})").toList ::
    (RuleSpec.tidy specs).flatMap fun spec =>
      (Rule.lint spec.rule).map fun issue =>
        "  warning: ".toList ++ spec.rule ++ ": ".toList ++ issue.message

def findings (options : DecideOptions) : List Finding :=
  let set := RuleSet.build (RuleSpec.tidy options.rules) options.fallback
  options.hosts.map (finding set)

def decideLines (options : DecideOptions) : List (List Char) :=
  let found := findings options
  (if options.verbose then ruleNotes options.rules else []) ++
    if options.json then [(Json.Document.array (found.map Finding.document)).render]
    else found.map Finding.line

def benchLines (benchmark : Benchmark) (times : Benchmark.Times) : Printed :=
  if benchmark.iterations = 0 then .error .noIterations
  else .ok (benchmark.report times benchmark.reportedHits)

/-- What a command prints; the times are for the benchmark. -/
def Command.lines (times : Benchmark.Times) : Command → Printed
  | .pattern rules => .ok (patternLines rules)
  | .test rule candidates => testLines rule candidates
  | .lint rules json =>
      .ok (if json then [(lintDocument rules).render] else rules.flatMap lintLines)
  | .suggest host => suggestLines host
  | .decide options => .ok (decideLines options)
  | .bench benchmark => benchLines benchmark times

/-- How a run ends. -/
inductive Outcome
  | printed (lines : List (List Char))
  | failed (failure : Failure)
  | refused (error : UsageError)

namespace Outcome

def ofPrinted : Printed → Outcome
  | .error failure => .failed failure
  | .ok lines => .printed lines

def exitCode : Outcome → Nat
  | .printed _ => 0
  | .failed _ => 1
  | .refused _ => 2

def standardOutput : Outcome → List Char
  | .printed lines => lines.flatMap fun line => line ++ ['\n']
  | .failed _ => []
  | .refused _ => []

def standardError : Outcome → List Char
  | .printed _ => []
  | .failed failure => "Error: ".toList ++ failure.message ++ ['\n']
  | .refused .misuse => synopsis
  | .refused error => error.message ++ ['\n']

end Outcome

def run (times : Benchmark.Times) (arguments : List (List Char)) : Outcome :=
  match Command.parse arguments with
  | .error error => .refused error
  | .ok command => .ofPrinted (command.lines times)

end CleanupRules.CommandLine
