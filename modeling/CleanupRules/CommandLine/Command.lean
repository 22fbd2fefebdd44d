import CleanupRules.Benchmark
import CleanupRules.CommandLine.Grammar
import CleanupRules.RuleSpec.Basic

/-!
The commands and their arguments.
-/

namespace CleanupRules.CommandLine

/-- What the command `decide` is asked. -/
structure DecideOptions where
  rules : List RuleSpec := []
  fallback : Cleanup := Cleanup.default
  hosts : List (List Char) := []
  json : Bool := false
  verbose : Bool := false

inductive Command
  /-- Shows the pattern of each rule. -/
  | pattern (rules : List (List Char))
  /-- Tests candidates against a rule. -/
  | test (rule : List Char) (candidates : List (List Char))
  /-- Shows the issues of rules. -/
  | lint (rules : List (List Char)) (json : Bool)
  /-- Suggests rules for a host or the host of a URL. -/
  | suggest (host : List Char)
  /-- Decides what becomes of hosts. -/
  | decide (options : DecideOptions)
  | bench (benchmark : Benchmark)

/-- Reads a natural number that fits 64 bits, a plus in front being allowed. The first character
that makes it impossible gives the reason. -/
def readNumber (text : List Char) : Except (List Char) Nat :=
  let rec digits (value : Nat) : List Char → Except (List Char) Nat
    | [] => .ok value
    | c :: rest =>
        if !c.isDigit then .error "invalid digit found in string".toList
        else
          let next := 10 * value + (c.toNat - '0'.toNat)
          if next < 2 ^ 64 then digits next rest
          else .error "number too large to fit in target type".toList
  match text with
  | [] => .error "cannot parse integer from empty string".toList
  | ['+'] => .error "invalid digit found in string".toList
  | '+' :: rest => digits 0 rest
  | text => digits 0 text

/-- The flag `--json`, by what it does. -/
def jsonFlag {σ : Type} (set : σ → σ) : Opt σ :=
  ⟨"json".toList, none, false, .flag set⟩

def patternGrammar : Grammar Unit := ⟨[], 1, none⟩

def testGrammar : Grammar Unit := ⟨[], 2, none⟩

def lintGrammar : Grammar Bool := ⟨[jsonFlag fun _ => true], 1, none⟩

def suggestGrammar : Grammar Unit := ⟨[], 1, some 1⟩

def decideGrammar : Grammar DecideOptions where
  options :=
    [⟨"rule".toList, some 'r', true, .value "RULES".toList true fun text =>
        match RuleSpec.parse text with
        | .error error => .error error.message
        | .ok spec => .ok fun options => { options with rules := options.rules ++ [spec] }⟩,
     ⟨"fallback".toList, some 'f', false, .value "FALLBACK".toList false fun text =>
        match Cleanup.parse text with
        | .error error => .error error.message
        | .ok fallback => .ok fun options => { options with fallback := fallback }⟩,
     jsonFlag fun options => { options with json := true },
     ⟨"verbose".toList, some 'v', false, .flag fun options => { options with verbose := true }⟩]
  least := 1
  most := none

def benchGrammar : Grammar Benchmark where
  options :=
    [⟨"candidate".toList, some 'c', false, .value "CANDIDATES".toList true fun text =>
        .ok fun benchmark => { benchmark with candidates := benchmark.candidates ++ [text] }⟩,
     ⟨"iterations".toList, some 'i', false, .value "ITERATIONS".toList false fun text =>
        match readNumber text with
        | .error reason => .error reason
        | .ok count => .ok fun benchmark => { benchmark with iterations := count }⟩]
  least := 1
  most := none

def readPattern (arguments : List (List Char)) : Except UsageError Command := do
  let (_, rules) ← patternGrammar.scan () arguments
  pure (.pattern rules)

def readTest (arguments : List (List Char)) : Except UsageError Command := do
  let (_, plain) ← testGrammar.scan () arguments
  match plain with
  | [] => .error .misuse
  | rule :: candidates => pure (.test rule candidates)

def readLint (arguments : List (List Char)) : Except UsageError Command := do
  let (json, rules) ← lintGrammar.scan false arguments
  pure (.lint rules json)

def readSuggest (arguments : List (List Char)) : Except UsageError Command := do
  let (_, hosts) ← suggestGrammar.scan () arguments
  match hosts with
  | [host] => pure (.suggest host)
  | _ => .error .misuse

def readDecide (arguments : List (List Char)) : Except UsageError Command := do
  let (options, hosts) ← decideGrammar.scan {} arguments
  pure (.decide { options with hosts := hosts })

def readBench (arguments : List (List Char)) : Except UsageError Command := do
  let (benchmark, rules) ← benchGrammar.scan { rules := [] } arguments
  pure (.bench { benchmark with rules := rules })

/-- The commands by their names, each with the reader of its arguments. -/
def commands : List (List Char × (List (List Char) → Except UsageError Command)) :=
  [("pattern".toList, readPattern), ("test".toList, readTest), ("lint".toList, readLint),
   ("suggest".toList, readSuggest), ("decide".toList, readDecide), ("bench".toList, readBench)]

/-- Reads a command line: the name of a command, then its arguments. -/
def Command.parse : List (List Char) → Except UsageError Command
  | [] => .error .misuse
  | name :: arguments =>
      match commands.lookup name with
      | none => .error .misuse
      | some read => read arguments

/-- How the program is called. -/
def synopsis : List Char :=
  ("usage:\n" ++
    "  pattern RULES...\n" ++
    "  test RULE CANDIDATES...\n" ++
    "  lint [--json] RULES...\n" ++
    "  suggest HOST\n" ++
    "  decide -r RULE=TYPE... [-f TYPE] [--json] [-v] HOSTS...\n" ++
    "  bench [-c CANDIDATE]... [-i ITERATIONS] RULES...\n").toList

end CleanupRules.CommandLine
