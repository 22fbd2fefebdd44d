import CleanupRules.Proofs.CompiledRules

/-!
Which rules are written as the same pattern. The pattern of a rule can be read back from the left:
literal labels hold no dot, and the pieces for wildcards and anchors differ from one another and from
everything a label begins with. So rules with the same written form have the same anchors and, runs
of wildcards aside, the same segments.
-/

namespace CleanupRules.Proofs.DistinctSources

open Pattern (Branch)
open RuleMeaning (Collapsed collapse_eq_nil_iff collapsed_collapse)

theorem gap_inj {before before' after after' : Bool} {rest rest' : Branch}
    (h : Segment.gap before after rest = Segment.gap before' after' rest') :
    before = before' ∧ after = after' ∧ rest = rest' := by
  cases before <;> cases after <;> cases before' <;> cases after' <;>
    simp [Segment.gap] at h ⊢ <;> exact h

theorem opening_inj {opening other : Opening} {rest rest' : Branch}
    (h : opening.branch rest = other.branch rest') : opening = other ∧ rest = rest' := by
  cases opening <;> cases other <;> simp [Opening.branch] at h ⊢ <;> exact h

theorem closing_inj {closing other : Closing}
    (h : closing.branch .done = other.branch .done) : closing = other := by
  cases closing <;> cases other <;> simp [Closing.branch] at h ⊢

theorem closing_ne_char {closing : Closing} {c : Char} {rest : Branch} :
    closing.branch .done ≠ .char c rest := by
  cases closing <;> simp [Closing.branch]

theorem closing_ne_gap {closing : Closing} {before after : Bool} {rest : Branch} :
    closing.branch .done ≠ Segment.gap before after rest := by
  cases closing <;> cases before <;> cases after <;> simp [Closing.branch, Segment.gap]

theorem char_ne_gap {c : Char} {before after : Bool} {rest rest' : Branch} :
    Branch.char c rest ≠ Segment.gap before after rest' := by
  cases before <;> cases after <;> simp [Segment.gap]

/-- Of all characters only a dot begins this branch, so a label in front of it ends there. -/
def EndsLabel (rest : Branch) : Prop :=
  ∀ c more, rest = .char c more → c = '.'

theorem text_inj {label other : Label} {rest rest' : Branch}
    (hdot : '.' ∉ label) (hdot' : '.' ∉ other) (hrest : EndsLabel rest) (hrest' : EndsLabel rest')
    (h : Branch.text label rest = Branch.text other rest') : label = other ∧ rest = rest' := by
  induction label generalizing other with
  | nil =>
      cases other with
      | nil => exact ⟨rfl, h⟩
      | cons c other =>
          obtain rfl := hrest c _ h
          exact absurd List.mem_cons_self hdot'
  | cons c label ih =>
      cases other with
      | nil =>
          obtain rfl := hrest' c _ h.symm
          exact absurd List.mem_cons_self hdot
      | cons d other =>
          obtain ⟨rfl, htext⟩ := Branch.char.inj h
          rw [List.mem_cons, not_or] at hdot hdot'
          obtain ⟨rfl, heq⟩ := ih hdot.2 hdot'.2 htext
          exact ⟨rfl, heq⟩

def DotFree (segments : List Segment) : Prop :=
  ∀ label, .literal label ∈ segments → '.' ∉ label

theorem DotFree.tail {segment : Segment} {segments : List Segment}
    (h : DotFree (segment :: segments)) : DotFree segments :=
  fun label hmem => h label (List.mem_cons_of_mem _ hmem)

section Segments

variable {closing closing' : Closing}

theorem endsLabel_branchFrom {segments : List Segment} :
    EndsLabel (Segment.branchFrom true true segments (closing.branch .done)) := by
  intro c more h
  match segments with
  | [] => exact absurd h closing_ne_char
  | .literal label :: segments => exact (Branch.char.inj h).1.symm
  | .wildcard :: segments => exact absurd h.symm char_ne_gap

theorem literal_inj {label other : Label} {segments others : List Segment}
    (hdot : DotFree (.literal label :: segments)) (hdot' : DotFree (.literal other :: others))
    (hbehind : Segment.branchFrom true true segments (closing.branch .done) =
        Segment.branchFrom true true others (closing'.branch .done) →
      segments = others ∧ closing = closing')
    (h : Branch.text label (Segment.branchFrom true true segments (closing.branch .done)) =
      Branch.text other (Segment.branchFrom true true others (closing'.branch .done))) :
    Segment.literal label :: segments = .literal other :: others ∧ closing = closing' := by
  obtain ⟨rfl, hrest⟩ := text_inj (hdot label List.mem_cons_self) (hdot' other List.mem_cons_self)
    endsLabel_branchFrom endsLabel_branchFrom h
  obtain ⟨rfl, hclosing⟩ := hbehind hrest
  exact ⟨rfl, hclosing⟩

theorem branchFrom_inj (segments others : List Segment)
    (hcollapsed : Collapsed segments) (hcollapsed' : Collapsed others)
    (hdot : DotFree segments) (hdot' : DotFree others)
    (h : Segment.branchFrom true true segments (closing.branch .done) =
      Segment.branchFrom true true others (closing'.branch .done)) :
    segments = others ∧ closing = closing' := by
  match segments, others with
  | [], [] => exact ⟨rfl, closing_inj h⟩
  | [], .literal other :: others => exact absurd h closing_ne_char
  | [], .wildcard :: others => exact absurd h closing_ne_gap
  | .literal label :: segments, [] => exact absurd h.symm closing_ne_char
  | .wildcard :: segments, [] => exact absurd h.symm closing_ne_gap
  | .literal label :: segments, .wildcard :: others => exact absurd h char_ne_gap
  | .wildcard :: segments, .literal other :: others => exact absurd h.symm char_ne_gap
  | .literal label :: segments, .literal other :: others =>
      have hbehind := branchFrom_inj segments others hcollapsed.tail hcollapsed'.tail
        hdot.tail hdot'.tail
      exact literal_inj hdot hdot' hbehind (Branch.char.inj h).2
  | .wildcard :: segments, .wildcard :: others =>
      obtain ⟨-, hempty, hrest⟩ := gap_inj h
      -- Behind a wildcard a literal has no dot in front, so the next segment is passed along.
      match segments, others with
      | [], [] => exact ⟨rfl, closing_inj hrest⟩
      | [], _ :: _ => simp at hempty
      | _ :: _, [] => simp at hempty
      | .wildcard :: _, _ => exact absurd rfl ((List.isChain_cons_cons.mp hcollapsed).1 rfl)
      | _, .wildcard :: _ => exact absurd rfl ((List.isChain_cons_cons.mp hcollapsed').1 rfl)
      | .literal label :: segments, .literal other :: others =>
          have hbehind := branchFrom_inj segments others hcollapsed.tail.tail
            hcollapsed'.tail.tail hdot.tail.tail hdot'.tail.tail
          obtain ⟨heq, hclosing⟩ := literal_inj hdot.tail hdot'.tail hbehind hrest
          exact ⟨congrArg (List.cons .wildcard) heq, hclosing⟩

theorem text_ne_gap {label : Label} {segments : List Segment} {after : Bool} {rest : Branch} :
    Branch.text label (Segment.branchFrom true true segments (closing.branch .done)) ≠
      Segment.gap false after rest := by
  cases label with
  | cons c label => exact char_ne_gap
  | nil =>
      match segments with
      | [] => exact closing_ne_gap
      | .literal label :: segments => exact char_ne_gap
      | .wildcard :: segments =>
          intro h
          exact absurd (gap_inj h).1 (by decide)

theorem branch_inj {segments others : List Segment} (hne : segments ≠ []) (hne' : others ≠ [])
    (hcollapsed : Collapsed segments) (hcollapsed' : Collapsed others)
    (hdot : DotFree segments) (hdot' : DotFree others)
    (h : Segment.branch segments (closing.branch .done) =
      Segment.branch others (closing'.branch .done)) :
    segments = others ∧ closing = closing' := by
  match segments, others with
  | .literal label :: segments, .wildcard :: others => exact absurd h text_ne_gap
  | .wildcard :: segments, .literal other :: others => exact absurd h.symm text_ne_gap
  | .literal label :: segments, .literal other :: others =>
      refine literal_inj hdot hdot' ?_ h
      exact branchFrom_inj segments others hcollapsed.tail hcollapsed'.tail hdot.tail hdot'.tail
  | .wildcard :: segments, .wildcard :: others =>
      obtain ⟨-, hafter, hrest⟩ := gap_inj h
      apply branchFrom_inj _ _ hcollapsed hcollapsed' hdot hdot'
      exact congrArg₂ (Segment.gap true) hafter hrest

end Segments

/-- The segments of a rule with its runs of wildcards merged. Anchors with nothing between them
enclose an empty literal. -/
def countedSegments (rule : Rule) : List Segment :=
  if rule.segments = [] then [.literal []] else Segment.collapse rule.segments

theorem countedSegments_ne_nil (rule : Rule) : countedSegments rule ≠ [] := by
  rw [countedSegments]
  split
  · simp
  · rename_i hne
    rwa [ne_eq, collapse_eq_nil_iff]

theorem collapsed_countedSegments (rule : Rule) : Collapsed (countedSegments rule) := by
  rw [countedSegments]
  split
  · exact List.isChain_singleton _
  · exact collapsed_collapse _

theorem collapse_sublist (segments : List Segment) :
    (Segment.collapse segments).Sublist segments := by
  induction segments with
  | nil => exact List.Sublist.refl _
  | cons segment segments ih =>
      cases segment with
      | literal label => exact ih.cons_cons _
      | wildcard =>
          rw [Segment.collapse_wildcard_cons]
          split
          · exact ih.cons _
          · exact ih.cons_cons _

theorem dotFree_countedSegments {rule : Rule} (h : DotFree rule.segments) :
    DotFree (countedSegments rule) := by
  rw [countedSegments]
  split
  · intro label hlabel
    obtain rfl := Segment.literal.inj (List.mem_singleton.mp hlabel)
    simp
  · intro label hlabel
    exact h label ((collapse_sublist _).subset hlabel)

theorem pattern_anchored (opening : Opening) (segments : List Segment) (closing : Closing) :
    (Rule.anchored opening segments closing).pattern =
      .only (opening.branch (Segment.branch
        (countedSegments (.anchored opening segments closing)) (closing.branch .done))) := by
  by_cases hempty : segments = []
  · subst hempty
    rfl
  · rw [countedSegments, Rule.segments, if_neg hempty, Rule.pattern]

theorem dotFree_parse (text : List Char) : DotFree (Rule.parse text).segments :=
  fun _ hlabel => Label.no_dot_of_mem_split (CompiledRules.mem_split_of_literal_mem_parse hlabel).1

theorem exists_takeClosing_cons {label : Label} (h : label ≠ Label.wildcard)
    (labels : List Label) :
    ∃ rest closing, Rule.takeClosing (label :: labels) = (label :: rest, closing) := by
  rw [Rule.takeClosing]
  split
  · rename_i hlast
    cases labels with
    | nil => exact absurd (Option.some.inj hlast) h
    | cons next labels => exact ⟨(next :: labels).dropLast, .finishOrDot, rfl⟩
  · exact ⟨labels, .finish, rfl⟩

/-- A rule that is anchored at the start begins with a literal: a wildcard there would have become
the other anchor. -/
theorem exists_literal_of_parse_start {text : List Char} {segments : List Segment}
    {closing : Closing} (h : Rule.parse text = .anchored .start segments closing) :
    ∃ label rest, segments = .literal label :: rest := by
  rw [Rule.parse] at h
  split at h
  · contradiction
  obtain ⟨label, labels, hsplit⟩ := List.exists_cons_of_ne_nil (Label.split_ne_nil text)
  rw [hsplit, Rule.takeOpening] at h
  by_cases hlabel : label = Label.wildcard
  · rw [if_pos hlabel] at h
    exact absurd (Rule.anchored.inj h).1 (by decide)
  · obtain ⟨rest, other, hclosing⟩ := exists_takeClosing_cons hlabel labels
    rw [if_neg hlabel] at h
    simp only [hclosing] at h
    obtain ⟨-, rfl, -⟩ := Rule.anchored.inj h
    exact ⟨label, rest.map Segment.ofLabel, by rw [List.map_cons, Segment.ofLabel, if_neg hlabel]⟩

/-- The rule `*` has a pattern like that of a lone wildcard between closed anchors, and no other rule
is read as such. -/
theorem pattern_everything_ne {text : List Char} {opening : Opening} {segments : List Segment}
    {closing : Closing} (h : Rule.parse text = .anchored opening segments closing) :
    Rule.everything.pattern ≠ (Rule.parse text).pattern := by
  rw [h, pattern_anchored]
  intro heq
  have hbranch : Opening.start.branch (Segment.gap false false (.finish .done)) =
      opening.branch _ := Pattern.only.inj heq
  obtain ⟨rfl, hrest⟩ := opening_inj hbranch
  obtain ⟨label, rest, rfl⟩ := exists_literal_of_parse_start h
  exact text_ne_gap hrest.symm

theorem parse_eq_of_pattern_eq {text other : List Char}
    (h : (Rule.parse text).pattern = (Rule.parse other).pattern) :
    (Rule.parse text).matchesAll = (Rule.parse other).matchesAll ∧
      (Rule.parse text).opening = (Rule.parse other).opening ∧
      (Rule.parse text).closing = (Rule.parse other).closing ∧
      countedSegments (Rule.parse text) = countedSegments (Rule.parse other) := by
  have hdot := dotFree_countedSegments (dotFree_parse text)
  have hdot' := dotFree_countedSegments (dotFree_parse other)
  cases hrule : Rule.parse text with
  | everything =>
      cases hrule' : Rule.parse other with
      | everything => exact ⟨rfl, rfl, rfl, rfl⟩
      | anchored opening segments closing =>
          rw [hrule] at h
          exact absurd h (pattern_everything_ne hrule')
  | anchored opening segments closing =>
      cases hrule' : Rule.parse other with
      | everything =>
          rw [hrule'] at h
          exact absurd h.symm (pattern_everything_ne hrule)
      | anchored opening' segments' closing' =>
          rw [hrule, hrule', pattern_anchored, pattern_anchored] at h
          rw [hrule] at hdot
          rw [hrule'] at hdot'
          obtain ⟨rfl, hbranch⟩ := opening_inj (Pattern.only.inj h)
          obtain ⟨hsegments, rfl⟩ := branch_inj (countedSegments_ne_nil _)
            (countedSegments_ne_nil _) (collapsed_countedSegments _) (collapsed_countedSegments _)
            hdot hdot' hbranch
          exact ⟨rfl, rfl, rfl, hsegments⟩

theorem pattern_congr {rule other : Rule} (hall : rule.matchesAll = other.matchesAll)
    (hopening : rule.opening = other.opening) (hclosing : rule.closing = other.closing)
    (hsegments : countedSegments rule = countedSegments other) : rule.pattern = other.pattern := by
  cases rule with
  | everything =>
      cases other with
      | everything => rfl
      | anchored opening segments closing => contradiction
  | anchored opening segments closing =>
      cases other with
      | everything => contradiction
      | anchored opening' segments' closing' =>
          obtain rfl : opening = opening' := hopening
          obtain rfl : closing = closing' := hclosing
          rw [pattern_anchored, pattern_anchored, hsegments]

/-- Rules are written as the same pattern exactly if they are read alike: both as the rule `*`, or
with the same anchors and the same segments. -/
theorem source_eq_iff (rule other : List Char) :
    Rule.source rule = Rule.source other ↔
      (Rule.parse rule).matchesAll = (Rule.parse other).matchesAll ∧
        (Rule.parse rule).opening = (Rule.parse other).opening ∧
        (Rule.parse rule).closing = (Rule.parse other).closing ∧
        countedSegments (Rule.parse rule) = countedSegments (Rule.parse other) := by
  constructor
  · intro h
    exact parse_eq_of_pattern_eq (Pattern.source_injective h)
  · rintro ⟨hall, hopening, hclosing, hsegments⟩
    exact congrArg Pattern.source (pattern_congr hall hopening hclosing hsegments)

example : Rule.source "a.*.*.b".toList = Rule.source "a.*.b".toList := by decide

end CleanupRules.Proofs.DistinctSources
