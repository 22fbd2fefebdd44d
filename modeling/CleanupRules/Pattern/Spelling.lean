import CleanupRules.Pattern.Source

/-!
The common notation for regular expressions as a grammar: characters, escapes, `.`, `^`, `$`, groups,
repetitions and alternatives. Classes, counted repetitions and further flags are left out. The main
statement is `wellFormed_of_parse?`: what is read as a pattern belongs to the notation, so also what
patterns are written as.

Readers of the notation stop where groups are nested too deep, so the grammar keeps count of that.
-/

namespace CleanupRules.Pattern

/-- The categories of the grammar. -/
inductive Form
  /-- What can be repeated. -/
  | atom
  | branch
  | alternatives

/-- A text of a category, with groups nested at most as deep as the number says. One relation for
all categories, so that an induction passes through all of them at once. -/
inductive Spelled : Nat → Form → List Char → Prop
  | character {depth : Nat} {c : Char} : isReserved c = false → Spelled depth .atom [c]
  | escape {depth : Nat} {c : Char} : isMeta c = true → Spelled depth .atom ['\\', c]
  | dot {depth : Nat} : Spelled depth .atom ['.']
  | start {depth : Nat} : Spelled depth .atom ['^']
  | finish {depth : Nat} : Spelled depth .atom ['$']
  | group {depth : Nat} {body : List Char} :
      Spelled depth .alternatives body →
        Spelled (depth + 1) .atom ('(' :: '?' :: ':' :: (body ++ [')']))
  /-- A group in which the dot stands for line breaks, too. -/
  | dotGroup {depth : Nat} {body : List Char} :
      Spelled depth .alternatives body →
        Spelled (depth + 1) .atom ('(' :: '?' :: 's' :: ':' :: (body ++ [')']))
  | empty {depth : Nat} : Spelled depth .branch []
  | once {depth : Nat} {atom rest : List Char} :
      Spelled depth .atom atom → Spelled depth .branch rest → Spelled depth .branch (atom ++ rest)
  | repeated {depth : Nat} {atom rest : List Char} {mark : Char} :
      Spelled depth .atom atom → mark ∈ ['?', '*', '+'] → Spelled depth .branch rest →
        Spelled depth .branch (atom ++ mark :: rest)
  | only {depth : Nat} {branch : List Char} :
      Spelled depth .branch branch → Spelled depth .alternatives branch
  | either {depth : Nat} {branch others : List Char} :
      Spelled depth .branch branch → Spelled depth .alternatives others →
        Spelled depth .alternatives (branch ++ '|' :: others)

/-- The text is a regular expression in the common notation, with groups nested at most `depth`
deep. -/
def WellFormed (depth : Nat) (text : List Char) : Prop :=
  Spelled depth .alternatives text

mutual

/-- How deep the groups in the written form are nested; that of any characters is one, too. -/
def depth : Pattern → Nat
  | .only branch => branch.depth
  | .either branch others => max branch.depth others.depth

def Branch.depth : Branch → Nat
  | .done => 0
  | .char _ rest => rest.depth
  | .start rest => rest.depth
  | .finish rest => rest.depth
  | .anything rest => max 1 rest.depth
  | .group body _ rest => max (body.depth + 1) rest.depth

end

/-- The stretches of a text that are taken for a piece: its written form, and a character without a
backslash where it needs none. -/
inductive Token.Spells : Token → List Char → Prop
  | written (token : Token) : Token.Spells token token.text
  | bare {c : Char} : isReserved c = false → Token.Spells (.char c) [c]

theorem eq_of_map_cons {read : Option (List Token)} {first token : Token} {tokens : List Token}
    (h : read.map (first :: ·) = some (token :: tokens)) : first = token ∧ read = some tokens := by
  obtain ⟨rest, hread, heq⟩ := Option.map_eq_some_iff.mp h
  obtain ⟨rfl, rfl⟩ := List.cons.inj heq
  exact ⟨rfl, hread⟩

theorem exists_of_scan? {text : List Char} {token : Token} {tokens : List Token}
    (h : scan? text = some (token :: tokens)) :
    ∃ front back, text = front ++ back ∧ token.Spells front ∧ scan? back = some tokens := by
  revert h
  fun_cases scan? text with
  | case1 | case3 | case11 => rintro ⟨⟩
  | case2 c rest hmeta =>
      intro h
      obtain ⟨rfl, hrest⟩ := eq_of_map_cons h
      have hspells := Token.Spells.written (.char c)
      rw [Token.text, if_pos hmeta] at hspells
      exact ⟨_, rest, rfl, hspells, hrest⟩
  | case4 rest | case5 rest | case6 rest | case7 rest | case8 rest | case9 rest | case10 rest =>
      intro h
      obtain ⟨rfl, hrest⟩ := eq_of_map_cons h
      exact ⟨_, rest, rfl, .written _, hrest⟩
  | case12 c rest =>
      rename_i hreserved
      intro h
      obtain ⟨rfl, hrest⟩ := eq_of_map_cons h
      exact ⟨[c], rest, rfl, .bare (Bool.eq_false_iff.mpr hreserved), hrest⟩

theorem eq_nil_of_scan? {text : List Char} (h : scan? text = some []) : text = [] := by
  revert h
  fun_cases scan? text <;> simp

theorem spelled_char {depth : Nat} {c : Char} {text : List Char}
    (h : (Token.char c).Spells text) : Spelled depth .atom text := by
  cases h with
  | bare hreserved => exact .character hreserved
  | written =>
      rw [Token.text]
      split
      · rename_i hmeta
        exact .escape hmeta
      · rename_i hmeta
        apply Spelled.character
        rw [Bool.eq_false_iff]
        intro hreserved
        exact hmeta (isMeta_of_isReserved hreserved)

theorem spelled_anything {depth : Nat} (h : 1 ≤ depth) :
    Spelled depth .atom Token.anything.text := by
  have hbody : Spelled (depth - 1) .branch ['.', '*'] := .repeated .dot (by decide) .empty
  rw [← Nat.sub_add_cancel h]
  exact .dotGroup (.only hbody)

theorem spelled_group {depth : Nat} {body : List Char} (hpos : 1 ≤ depth)
    (h : Spelled (depth - 1) .alternatives body) :
    Spelled depth .atom ('(' :: '?' :: ':' :: (body ++ [')'])) := by
  rw [← Nat.sub_add_cancel hpos]
  exact .group h

mutual

theorem exists_spelled (pattern : Pattern) {limit : Nat} (h : pattern.depth ≤ limit)
    {text : List Char} {more : List Token} (hscan : scan? text = some (pattern.tokens ++ more)) :
    ∃ front back, text = front ++ back ∧ Spelled limit .alternatives front ∧
      scan? back = some more := by
  cases pattern with
  | only branch =>
      obtain ⟨front, back, rfl, hfront, hback⟩ := Branch.exists_spelled branch h hscan
      exact ⟨front, back, rfl, .only hfront, hback⟩
  | either branch others =>
      obtain ⟨hbranch, hothers⟩ := Nat.max_le.mp h
      rw [tokens, List.append_assoc] at hscan
      obtain ⟨front, _, rfl, hfront, hbar⟩ := Branch.exists_spelled branch hbranch hscan
      obtain ⟨_, _, rfl, ⟨⟩, hrest⟩ := exists_of_scan? hbar
      obtain ⟨back, last, rfl, hback, hlast⟩ := exists_spelled others hothers hrest
      exact ⟨front ++ '|' :: back, last, by simp [Token.text], .either hfront hback, hlast⟩

theorem Branch.exists_spelled (branch : Branch) {limit : Nat} (h : branch.depth ≤ limit)
    {text : List Char} {more : List Token} (hscan : scan? text = some (branch.tokens ++ more)) :
    ∃ front back, text = front ++ back ∧ Spelled limit .branch front ∧
      scan? back = some more := by
  cases branch with
  | done => exact ⟨[], text, rfl, .empty, hscan⟩
  | char c rest =>
      obtain ⟨atom, _, rfl, hatom, hrest⟩ := exists_of_scan? hscan
      obtain ⟨front, back, rfl, hfront, hback⟩ := Branch.exists_spelled rest h hrest
      exact ⟨atom ++ front, back, (List.append_assoc ..).symm, .once (spelled_char hatom) hfront,
        hback⟩
  | start rest =>
      obtain ⟨_, _, rfl, ⟨⟩, hrest⟩ := exists_of_scan? hscan
      obtain ⟨front, back, rfl, hfront, hback⟩ := Branch.exists_spelled rest h hrest
      exact ⟨'^' :: front, back, rfl, .once .start hfront, hback⟩
  | finish rest =>
      obtain ⟨_, _, rfl, ⟨⟩, hrest⟩ := exists_of_scan? hscan
      obtain ⟨front, back, rfl, hfront, hback⟩ := Branch.exists_spelled rest h hrest
      exact ⟨'$' :: front, back, rfl, .once .finish hfront, hback⟩
  | anything rest =>
      obtain ⟨hpos, hdepth⟩ := Nat.max_le.mp h
      obtain ⟨_, _, rfl, ⟨⟩, hrest⟩ := exists_of_scan? hscan
      obtain ⟨front, back, rfl, hfront, hback⟩ := Branch.exists_spelled rest hdepth hrest
      exact ⟨Token.anything.text ++ front, back, (List.append_assoc ..).symm,
        .once (spelled_anything hpos) hfront, hback⟩
  | group body optional rest =>
      obtain ⟨hbody, hdepth⟩ := Nat.max_le.mp h
      rw [Branch.tokens, List.cons_append, List.append_assoc] at hscan
      obtain ⟨_, _, rfl, ⟨⟩, hinner⟩ := exists_of_scan? hscan
      obtain ⟨inner, _, rfl, hspelled, hclose⟩ :=
        exists_spelled body (Nat.le_sub_one_of_lt hbody) hinner
      obtain ⟨_, _, rfl, ⟨⟩, hrest⟩ := exists_of_scan? hclose
      obtain ⟨front, back, rfl, hfront, hback⟩ := Branch.exists_spelled rest hdepth hrest
      have hgroup := spelled_group (by omega) hspelled
      cases optional with
      | false => exact ⟨_, back, by simp [Token.text], .once hgroup hfront, hback⟩
      | true =>
          have hmark : '?' ∈ ['?', '*', '+'] := by decide
          exact ⟨_, back, by simp [Token.text], .repeated hgroup hmark hfront, hback⟩

end

/-- What is read as a pattern is a regular expression. -/
theorem wellFormed_of_parse? {source : List Char} {pattern : Pattern} {limit : Nat}
    (h : parse? source = some pattern) (hdepth : pattern.depth ≤ limit) :
    WellFormed limit source := by
  have hscan := parse?_eq_some_iff.mp h
  rw [← List.append_nil pattern.tokens] at hscan
  obtain ⟨front, back, rfl, hfront, hback⟩ := exists_spelled pattern hdepth hscan
  obtain rfl := eq_nil_of_scan? hback
  rw [List.append_nil]
  exact hfront

theorem wellFormed_source (pattern : Pattern) {limit : Nat} (h : pattern.depth ≤ limit) :
    WellFormed limit pattern.source :=
  wellFormed_of_parse? (parse?_source pattern) h

end CleanupRules.Pattern
