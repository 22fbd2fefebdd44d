import CleanupRules.Label

/-!
Rules. A rule is written as labels with dots between them; a label that is exactly `*` stands for
any run of labels. The outer wildcards of a rule say how it is anchored in a host.
-/

namespace CleanupRules

/-- A label inside a rule. -/
inductive Segment
  | literal (label : List Char)
  /-- Any number of labels, none included. -/
  | wildcard
  deriving DecidableEq, Repr

namespace Segment

def ofLabel (label : Label) : Segment :=
  if label = Label.wildcard then .wildcard else .literal label

def label : Segment → Label
  | .literal label => label
  | .wildcard => Label.wildcard

@[simp] theorem label_ofLabel (l : Label) : (ofLabel l).label = l := by
  unfold ofLabel
  split <;> simp_all [label]

theorem ofLabel_label {segment : Segment} (h : segment ≠ .literal Label.wildcard) :
    ofLabel segment.label = segment := by
  cases segment with
  | literal label => exact if_neg fun heq => h (congrArg literal heq)
  | wildcard => rfl

theorem ofLabel_eq_wildcard_iff {label : Label} :
    ofLabel label = .wildcard ↔ label = Label.wildcard := by
  rw [ofLabel]
  split <;> simp_all

theorem literal_mem_map_ofLabel_iff {label : Label} {labels : List Label} :
    .literal label ∈ labels.map ofLabel ↔ label ∈ labels ∧ label ≠ Label.wildcard := by
  rw [List.mem_map]
  constructor
  · rintro ⟨given, hgiven, heq⟩
    rw [ofLabel] at heq
    split at heq
    · contradiction
    · rename_i hne
      obtain rfl := literal.inj heq
      exact ⟨hgiven, hne⟩
  · rintro ⟨hlabel, hne⟩
    exact ⟨label, hlabel, if_neg hne⟩

/-- One wildcard for every run of neighbouring wildcards. -/
def collapse : List Segment → List Segment
  | [] => []
  | .literal label :: rest => .literal label :: collapse rest
  | .wildcard :: rest =>
      match collapse rest with
      | .wildcard :: more => .wildcard :: more
      | more => .wildcard :: more

theorem head?_collapse (segments : List Segment) : (collapse segments).head? = segments.head? := by
  cases segments with
  | nil => rfl
  | cons segment segments =>
      cases segment with
      | literal label => rfl
      | wildcard =>
          rw [collapse]
          split <;> rfl

theorem collapse_wildcard_cons (segments : List Segment) :
    collapse (.wildcard :: segments) =
      if segments.head? = some .wildcard then collapse segments
      else .wildcard :: collapse segments := by
  rw [← head?_collapse segments, collapse]
  split
  · rename_i more heq
    simp [heq]
  · rename_i hmore
    refine (if_neg fun hhead => ?_).symm
    obtain ⟨more, heq⟩ := List.head?_eq_some_iff.mp hhead
    exact hmore more heq

end Segment

/-- How a rule begins in a host. -/
inductive Opening
  /-- At the start of the host. -/
  | start
  /-- At the start, or behind any dot. -/
  | startOrDot
  deriving DecidableEq, Repr

/-- How a rule ends in a host. -/
inductive Closing
  /-- At the end of the host. -/
  | finish
  /-- At the end, or before any dot. -/
  | finishOrDot
  deriving DecidableEq, Repr

instance : Inhabited Opening := ⟨.start⟩
instance : Inhabited Closing := ⟨.finish⟩

inductive Rule
  /-- The rule `*`. -/
  | everything
  | anchored (opening : Opening) (segments : List Segment) (closing : Closing)
  deriving DecidableEq, Repr

namespace Rule

def takeOpening : List Label → Opening × List Label
  | [] => (.start, [])
  | label :: labels =>
      if label = Label.wildcard then (.startOrDot, labels) else (.start, label :: labels)

def takeClosing (labels : List Label) : List Label × Closing :=
  if labels.getLast? = some Label.wildcard then (labels.dropLast, .finishOrDot)
  else (labels, .finish)

/-- Reads a rule; every text is one. A wildcard at the front and one at the end become anchors,
so that nothing is left between those of `*.*`. -/
def parse (text : List Char) : Rule :=
  if text = Label.wildcard then .everything
  else
    let (opening, labels) := takeOpening (Label.split text)
    let (labels, closing) := takeClosing labels
    .anchored opening (labels.map Segment.ofLabel) closing

def opening : Rule → Opening
  | .everything => .startOrDot
  | .anchored opening _ _ => opening

def closing : Rule → Closing
  | .everything => .finishOrDot
  | .anchored _ _ closing => closing

def segments : Rule → List Segment
  | .everything => []
  | .anchored _ segments _ => segments

def matchesAll : Rule → Bool
  | .everything => true
  | .anchored .. => false

end Rule

end CleanupRules
