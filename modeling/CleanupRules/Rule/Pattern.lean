import CleanupRules.Pattern.Source
import CleanupRules.Rule.Basic

/-!
The pattern that a rule stands for. Between literal labels stand dots; a wildcard takes the dots at
its sides with it, so that it can also stand for no label at all.
-/

namespace CleanupRules

open Pattern (Branch)

namespace Segment

/-- The pattern of a wildcard, by whether there is a segment before it and one after it. Between
two labels it is a run of labels with a dot on each side, or a single dot. -/
def gap (before after : Bool) (rest : Branch) : Branch :=
  match before, after with
  | true, true =>
      .group
        (.either (.char '.' (.anything (.char '.' .done))) (.only (.char '.' .done))) false rest
  | false, true => .group (.only (.anything (.char '.' .done))) true rest
  | true, false => .group (.only (.char '.' (.anything .done))) true rest
  | false, false => .anything rest

/-- The pattern of segments, where `before` says that a segment precedes them and `dot` that a
literal label would need a dot in front. Neighbouring wildcards should be collapsed first: each of
them would ask for a dot of its own. -/
def branchFrom (before dot : Bool) : List Segment → Branch → Branch
  | [], rest => rest
  | .literal label :: segments, rest =>
      let literal := Branch.text label (branchFrom true true segments rest)
      if dot then .char '.' literal else literal
  | .wildcard :: segments, rest =>
      gap before (!segments.isEmpty) (branchFrom true false segments rest)

def branch (segments : List Segment) (rest : Branch) : Branch :=
  branchFrom false false segments rest

def source (segments : List Segment) : List Char :=
  Pattern.source (.only (branch segments .done))

end Segment

def Opening.branch (opening : Opening) (rest : Branch) : Branch :=
  match opening with
  | .start => .start rest
  | .startOrDot =>
      .group (.either (.start .done) (.only (.start (.anything (.char '.' .done))))) false rest

def Closing.branch (closing : Closing) (rest : Branch) : Branch :=
  match closing with
  | .finish => .finish rest
  | .finishOrDot =>
      .group (.either (.finish .done) (.only (.char '.' (.anything (.finish .done))))) false rest

namespace Rule

def pattern : Rule → Pattern
  | .everything => .only (.start (.anything (.finish .done)))
  | .anchored opening segments closing =>
      .only (opening.branch
        (Segment.branch (Segment.collapse segments) (closing.branch .done)))

def source (text : List Char) : List Char :=
  (parse text).pattern.source

end Rule

end CleanupRules
