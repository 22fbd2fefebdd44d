import CleanupRules.Engine
import CleanupRules.Rule.Pattern
import CleanupRules.Text.Quoted

/-!
Matchers: rules made ready for testing hosts.
-/

namespace CleanupRules

/-- A rule with a regular expression for it, and the search for that expression unless an engine has
refused it. -/
structure Matcher where
  rule : List Char
  source : List Char
  search : Option (List Char → Bool)

/-- A matcher that rejects every candidate. -/
def Matcher.never (rule source : List Char) : Matcher :=
  ⟨rule, source, none⟩

namespace Engine

variable (engine : Engine)

/-- A matcher for any regular expression. -/
def ofSource? (rule source : List Char) : Option Matcher :=
  (engine source).map fun search => ⟨rule, source, some search⟩

def compile? (rule : List Char) : Option Matcher :=
  engine.ofSource? rule (Rule.source rule)

/-- A matcher for a rule; it rejects everything if the rule cannot be compiled. -/
def compile (rule : List Char) : Matcher :=
  (engine.compile? rule).getD (.never rule (Rule.source rule))

end Engine

namespace Matcher

/-- A matcher for the written form of any pattern. -/
def ofSource? (rule source : List Char) : Option Matcher :=
  Engine.own.ofSource? rule source

def compile? (rule : List Char) : Option Matcher :=
  Engine.own.compile? rule

def compile (rule : List Char) : Matcher :=
  Engine.own.compile rule

def isCompiled (matcher : Matcher) : Bool :=
  matcher.search.isSome

/-- Does the matcher accept this candidate, taken as it is spelled? -/
def test (matcher : Matcher) (candidate : List Char) : Bool :=
  match matcher.search with
  | none => false
  | some search => search candidate

/-- Matchers are compared by their rule and the regular expression for it. -/
instance : BEq Matcher := ⟨fun a b => a.rule == b.rule && a.source == b.source⟩

/-- A matcher as it is shown to programmers. -/
def description (matcher : Matcher) : List Char :=
  "RuleMatcher \x7b rule: ".toList ++ Text.quote matcher.rule ++
    ", source: ".toList ++ Text.quote matcher.source ++
    ", compiled: ".toList ++ (toString matcher.isCompiled).toList ++ " \x7d".toList

theorem test_iff_of_ofSource? {engine : Engine} (h : engine.Lawful) {name : List Char}
    {pattern : Pattern} {matcher : Matcher}
    (hmatcher : engine.ofSource? name pattern.source = some matcher) (text : List Char) :
    matcher.test text = true ↔ pattern.OccursIn text := by
  obtain ⟨search, hsearch, rfl⟩ := Option.map_eq_some_iff.mp hmatcher
  exact h.finds pattern hsearch text

theorem ofSource?_source (name : List Char) (pattern : Pattern) :
    ofSource? name pattern.source = some ⟨name, pattern.source, some pattern.occursIn⟩ := by
  rw [ofSource?, Engine.ofSource?, Engine.own_source]
  rfl

theorem compile?_eq (rule : List Char) :
    compile? rule = some ⟨rule, Rule.source rule, some (Rule.parse rule).pattern.occursIn⟩ :=
  ofSource?_source rule (Rule.parse rule).pattern

theorem compile_eq (rule : List Char) :
    compile rule = ⟨rule, Rule.source rule, some (Rule.parse rule).pattern.occursIn⟩ := by
  rw [compile, Engine.compile, ← compile?, compile?_eq]
  rfl

end Matcher

end CleanupRules
