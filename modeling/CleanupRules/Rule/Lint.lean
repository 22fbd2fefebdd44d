import CleanupRules.Label
import CleanupRules.Text.Blank
import CleanupRules.Text.Capital
import CleanupRules.Text.Quoted

/-!
Issues that a rule may have. They are advice: a rule with issues means what it says.
-/

namespace CleanupRules

/-- The kinds of issues, in the order of their bits. -/
inductive IssueKind
  | empty
  | emptyLabel
  | embeddedWildcard
  | whitespace
  | uppercase
  | redundantWildcard
  | noOrdinaryHost
  deriving DecidableEq, Repr

namespace IssueKind

def all : List IssueKind :=
  [.empty, .emptyLabel, .embeddedWildcard, .whitespace, .uppercase, .redundantWildcard,
   .noOrdinaryHost]

def name : IssueKind → String
  | .empty => "empty"
  | .emptyLabel => "empty_label"
  | .embeddedWildcard => "embedded_wildcard"
  | .whitespace => "whitespace"
  | .uppercase => "uppercase"
  | .redundantWildcard => "redundant_wildcard"
  | .noOrdinaryHost => "no_ordinary_host"

/-- The bit of a kind in a summary of issues. -/
def bit (kind : IssueKind) : Nat :=
  1 <<< all.idxOf kind

def flagName (kind : IssueKind) : String :=
  kind.name.map Char.toUpper

end IssueKind

/-- An issue of a rule; positions count the labels from 0. -/
inductive Issue
  /-- Only an empty host is matched. -/
  | empty
  | emptyLabel (index : Nat)
  /-- A `*` inside a longer label, which is matched literally. -/
  | embeddedWildcard (label : Label)
  | whitespace
  /-- Hosts are tested in small letters. -/
  | uppercase
  /-- A wildcard right behind another one. -/
  | redundantWildcard (index : Nat)
  /-- The rule `*.*`: its wildcards are anchors with nothing between them. -/
  | noOrdinaryHost
  deriving DecidableEq, Repr

namespace Issue

def kind : Issue → IssueKind
  | .empty => .empty
  | .emptyLabel _ => .emptyLabel
  | .embeddedWildcard _ => .embeddedWildcard
  | .whitespace => .whitespace
  | .uppercase => .uppercase
  | .redundantWildcard _ => .redundantWildcard
  | .noOrdinaryHost => .noOrdinaryHost

def message : Issue → List Char
  | .empty => "rule is empty and only matches an empty host".toList
  | .emptyLabel index => s!"label {index} is empty".toList
  | .embeddedWildcard label =>
      "'*' in label ".toList ++ Text.quote label ++
        " is matched literally; wildcards must be whole labels".toList
  | .whitespace => "rule contains whitespace".toList
  | .uppercase => "hosts are lowercase; uppercase letters never match".toList
  | .redundantWildcard index => s!"wildcard label {index} repeats the previous one".toList
  | .noOrdinaryHost =>
      ("'*.*' matches no ordinary host, only hosts with an empty label; " ++
        "use '*' to match everything").toList

end Issue

namespace Rule

/-- The issue of one label, where `repeats` says that the label before it is a wildcard. -/
def labelIssue (index : Nat) (repeats : Bool) (label : Label) : List Issue :=
  if label = [] then [.emptyLabel index]
  else if label = Label.wildcard then
    if repeats then [.redundantWildcard index] else []
  else if '*' ∈ label then [.embeddedWildcard label]
  else []

/-- The issues of labels in their order, the first of which has the position `index`. -/
def labelIssues (index : Nat) (repeats : Bool) : List Label → List Issue
  | [] => []
  | label :: labels =>
      labelIssue index repeats label ++ labelIssues (index + 1) (label = Label.wildcard) labels

/-- The issues of a rule: of its characters, then of its labels in their order. -/
def lint (rule : List Char) : List Issue :=
  if rule = [] then [.empty]
  else if rule = ['*', '.', '*'] then [.noOrdinaryHost]
  else
    (if rule.any Text.isBlank then [.whitespace] else []) ++
      (if rule.any Text.isCapital then [.uppercase] else []) ++
      labelIssues 0 false (Label.split rule)

/-- The kinds of issues that a rule has, each once, in the order of their bits. -/
def lintKinds (rule : List Char) : List IssueKind :=
  let issues := lint rule
  IssueKind.all.filter fun kind => issues.any fun issue => issue.kind = kind

/-- The sum of the bits of the kinds of issues that a rule has. -/
def lintFlags (rule : List Char) : Nat :=
  (lintKinds rule).foldr (fun kind flags => kind.bit + flags) 0

theorem no_blank_of_lint {rule : List Char} (h : lint rule = []) :
    rule ≠ [] ∧ ∀ c ∈ rule, Text.isBlank c = false := by
  rw [lint] at h
  split at h
  · contradiction
  rename_i hne
  split at h
  · contradiction
  obtain ⟨hchars, -⟩ := List.append_eq_nil_iff.mp h
  obtain ⟨hblank, -⟩ := List.append_eq_nil_iff.mp hchars
  refine ⟨hne, ?_⟩
  intro c hc
  rw [Bool.eq_false_iff]
  intro hc'
  rw [if_pos (List.any_eq_true.mpr ⟨c, hc, hc'⟩)] at hblank
  contradiction

theorem redundantWildcard_mem_labelIssue_iff {index start : Nat} {repeats : Bool} {label : Label} :
    Issue.redundantWildcard index ∈ labelIssue start repeats label ↔
      repeats = true ∧ index = start ∧ label = Label.wildcard := by
  rw [labelIssue]
  split
  · rename_i hempty
    simp [hempty, Label.wildcard]
  split
  · rename_i hlabel
    cases repeats <;> simp [hlabel]
  · rename_i hlabel
    split <;> simp [hlabel]

theorem exists_append_of_redundantWildcard_mem {index start : Nat} {repeats : Bool}
    {labels : List Label}
    (h : Issue.redundantWildcard index ∈ labelIssues start repeats labels) :
    (repeats = true ∧ index = start ∧ labels.head? = some Label.wildcard) ∨
      ∃ front back, labels = front ++ Label.wildcard :: Label.wildcard :: back ∧
        index = start + front.length + 1 := by
  induction labels generalizing start repeats with
  | nil => contradiction
  | cons label labels ih =>
      rw [labelIssues, List.mem_append, redundantWildcard_mem_labelIssue_iff] at h
      rcases h with ⟨hrepeats, hindex, hlabel⟩ | hrest
      · exact Or.inl ⟨hrepeats, hindex, congrArg some hlabel⟩
      · right
        rcases ih hrest with ⟨hlabel, hindex, hhead⟩ | ⟨front, back, rfl, hindex⟩
        · obtain ⟨back, rfl⟩ := List.head?_eq_some_iff.mp hhead
          refine ⟨[], back, ?_, hindex⟩
          rw [of_decide_eq_true hlabel]
          rfl
        · refine ⟨label :: front, back, rfl, ?_⟩
          rw [hindex, List.length_cons]
          omega

theorem exists_split_of_redundantWildcard_mem {rule : List Char} {index : Nat}
    (h : Issue.redundantWildcard index ∈ lint rule) :
    rule ≠ ['*', '.', '*'] ∧
      ∃ front back, Label.split rule = front ++ Label.wildcard :: Label.wildcard :: back ∧
        index = front.length + 1 := by
  rw [lint] at h
  split at h
  · simp at h
  split at h
  · simp at h
  rename_i hdouble
  refine ⟨hdouble, ?_⟩
  have hlabels : Issue.redundantWildcard index ∈ labelIssues 0 false (Label.split rule) := by
    rcases List.mem_append.mp h with hchars | hlabels
    · rcases List.mem_append.mp hchars with hblank | hcapital
      · split at hblank <;> simp at hblank
      · split at hcapital <;> simp at hcapital
    · exact hlabels
  simpa using exists_append_of_redundantWildcard_mem hlabels

end Rule

end CleanupRules
