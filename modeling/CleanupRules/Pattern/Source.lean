import CleanupRules.Pattern.Basic

/-!
The written form of patterns, in the common notation for regular expressions, and its reader. The
main statement is `parse?_source`: what is written is read back as the same pattern.

The reader knows only what patterns are made of: characters, `^`, `$`, `(?s:.*)`, and groups `(?:…)`
with alternatives and an optional `?`.
-/

namespace CleanupRules.Pattern

/-- The smallest pieces of the written form. -/
inductive Token
  | char (c : Char)
  | start
  | finish
  | anything
  | bar
  | openGroup
  | closeGroup (optional : Bool)
  deriving DecidableEq

/-- The characters with a meaning of their own somewhere in the notation; they are written with a
backslash. -/
def isMeta (c : Char) : Bool :=
  c ∈ "\\.+*?()|[]\x7b\x7d^$#&-~".toList

/-- The characters that cannot stand for themselves without a backslash. -/
def isReserved (c : Char) : Bool :=
  c ∈ "\\.+*?()|[\x7b^$".toList

def Token.text : Token → List Char
  | .char c => if isMeta c then ['\\', c] else [c]
  | .start => ['^']
  | .finish => ['$']
  | .anything => ['(', '?', 's', ':', '.', '*', ')']
  | .bar => ['|']
  | .openGroup => ['(', '?', ':']
  | .closeGroup optional => if optional then [')', '?'] else [')']

mutual

def tokens : Pattern → List Token
  | .only branch => branch.tokens
  | .either branch others => branch.tokens ++ .bar :: others.tokens

def Branch.tokens : Branch → List Token
  | .done => []
  | .char c rest => .char c :: rest.tokens
  | .start rest => .start :: rest.tokens
  | .finish rest => .finish :: rest.tokens
  | .anything rest => .anything :: rest.tokens
  | .group body optional rest =>
      .openGroup :: (body.tokens ++ .closeGroup optional :: rest.tokens)

end

def written (tokens : List Token) : List Char :=
  tokens.flatMap Token.text

def source (pattern : Pattern) : List Char :=
  written pattern.tokens

/-- Cuts a written form into its pieces. -/
def scan? : List Char → Option (List Token)
  | [] => some []
  | '\\' :: c :: rest => if isMeta c then (scan? rest).map (.char c :: ·) else none
  | '^' :: rest => (scan? rest).map (.start :: ·)
  | '$' :: rest => (scan? rest).map (.finish :: ·)
  | '|' :: rest => (scan? rest).map (.bar :: ·)
  | '(' :: '?' :: ':' :: rest => (scan? rest).map (.openGroup :: ·)
  | '(' :: '?' :: 's' :: ':' :: '.' :: '*' :: ')' :: rest => (scan? rest).map (.anything :: ·)
  | ')' :: '?' :: rest => (scan? rest).map (.closeGroup true :: ·)
  | ')' :: rest => (scan? rest).map (.closeGroup false :: ·)
  | c :: rest => if isReserved c then none else (scan? rest).map (.char c :: ·)

/-- What has been read of one group, from its end: the branch in hand and the alternatives after
it. -/
structure Level where
  branch : Branch
  others : Option Pattern

def Level.empty : Level := ⟨.done, none⟩

def Level.pattern (level : Level) : Pattern :=
  match level.others with
  | none => .only level.branch
  | some others => .either level.branch others

/-- What has been read of a written form, from its end: the group in hand, and those around it, each
with the mark on the group inside it. -/
structure Reading where
  level : Level
  around : List (Bool × Level)

/-- Puts one more piece in front. A group that opens must have been closed. -/
def Reading.push? (reading : Reading) : Token → Option Reading
  | .char c => some { reading with level.branch := .char c reading.level.branch }
  | .start => some { reading with level.branch := .start reading.level.branch }
  | .finish => some { reading with level.branch := .finish reading.level.branch }
  | .anything => some { reading with level.branch := .anything reading.level.branch }
  | .bar => some { reading with level := ⟨.done, some reading.level.pattern⟩ }
  | .closeGroup optional => some ⟨.empty, (optional, reading.level) :: reading.around⟩
  | .openGroup =>
      match reading.around with
      | [] => none
      | (optional, outer) :: around =>
          some ⟨⟨.group reading.level.pattern optional outer.branch, outer.others⟩, around⟩

/-- Puts pieces in front, the last one first. -/
def Reading.extend? (reading : Reading) (tokens : List Token) : Option Reading :=
  tokens.foldr (fun token read => read.bind (·.push? token)) (some reading)

/-- Reads a written form. It fails on what is not made of the known pieces, and where parentheses do
not pair up. -/
def parse? (source : List Char) : Option Pattern := do
  let tokens ← scan? source
  let reading ← Reading.extend? ⟨.empty, []⟩ tokens
  if reading.around.isEmpty then some reading.level.pattern else none

@[simp] theorem written_cons (token : Token) (tokens : List Token) :
    written (token :: tokens) = token.text ++ written tokens := by
  simp [written]

theorem isMeta_of_isReserved {c : Char} (h : isReserved c = true) : isMeta c = true := by
  simp only [isReserved, isMeta, decide_eq_true_eq] at *
  revert h
  simp only [String.reduceToList, List.mem_cons, List.not_mem_nil, or_false]
  rintro (rfl | rfl | rfl | rfl | rfl | rfl | rfl | rfl | rfl | rfl | rfl | rfl) <;> decide

theorem head?_written (tokens : List Token) : (written tokens).head? ≠ some '?' := by
  cases tokens with
  | nil => simp [written]
  | cons token tokens =>
      cases token with
      | char c =>
          simp only [written_cons, Token.text]
          split
          · simp
          · rename_i h
            rintro heq
            simp only [List.cons_append, List.head?_cons, Option.some.injEq] at heq
            subst heq
            exact h (by decide)
      | closeGroup optional => cases optional <;> simp [Token.text]
      | start => simp [Token.text]
      | finish => simp [Token.text]
      | anything => simp [Token.text]
      | bar => simp [Token.text]
      | openGroup => simp [Token.text]

theorem scan?_char_of_not_reserved {c : Char} (h : isReserved c = false) (rest : List Char) :
    scan? (c :: rest) = (scan? rest).map (.char c :: ·) := by
  have hne : ∀ d ∈ "\\^$|()".toList, c ≠ d := by
    intro d hd heq
    subst heq
    revert h
    simp only [String.reduceToList, List.mem_cons, List.not_mem_nil, or_false] at hd
    rcases hd with rfl | rfl | rfl | rfl | rfl | rfl <;> decide
  simp only [String.reduceToList, List.mem_cons, List.not_mem_nil, or_false, forall_eq_or_imp,
    forall_eq] at hne
  obtain ⟨h₁, h₂, h₃, h₄, h₅, h₆⟩ := hne
  rw [scan?.eq_def]
  split <;> simp_all

theorem scan?_text_append (token : Token) {rest : List Char} (h : rest.head? ≠ some '?') :
    scan? (token.text ++ rest) = (scan? rest).map (token :: ·) := by
  cases token with
  | char c =>
      simp only [Token.text]
      split
      · rename_i hc
        have hscan : scan? ('\\' :: c :: rest) =
            if isMeta c then (scan? rest).map (.char c :: ·) else none := rfl
        simpa [hc] using hscan
      · rename_i hc
        have hr : isReserved c = false := by
          cases hres : isReserved c with
          | false => rfl
          | true => exact absurd (isMeta_of_isReserved hres) hc
        exact scan?_char_of_not_reserved hr rest
  | closeGroup optional =>
      cases optional with
      | true => rfl
      | false =>
          cases rest with
          | nil => rfl
          | cons c rest =>
              have hc : c ≠ '?' := by simpa using h
              show scan? (')' :: c :: rest) = _
              rw [scan?.eq_def]
              split
              case h_10 hclose heq =>
                obtain ⟨rfl, rfl⟩ := List.cons.inj heq
                exact absurd rfl hclose
              all_goals simp_all
  | start => rfl
  | finish => rfl
  | anything => rfl
  | bar => rfl
  | openGroup => rfl

theorem scan?_written (tokens : List Token) : scan? (written tokens) = some tokens := by
  induction tokens with
  | nil => rfl
  | cons token tokens ih =>
      rw [written_cons, scan?_text_append token (head?_written tokens), ih]
      rfl

@[simp] theorem Reading.extend?_nil (reading : Reading) : reading.extend? [] = some reading := rfl

theorem Reading.extend?_cons (reading : Reading) (token : Token) (tokens : List Token) :
    reading.extend? (token :: tokens) = (reading.extend? tokens).bind (·.push? token) := rfl

theorem Reading.extend?_append (reading : Reading) (before after : List Token) :
    reading.extend? (before ++ after) = (reading.extend? after).bind (·.extend? before) := by
  induction before with
  | nil => cases h : reading.extend? after <;> simp [h]
  | cons token before ih =>
      rw [List.cons_append, extend?_cons, ih]
      cases reading.extend? after <;> simp [extend?_cons]

mutual

theorem extend?_tokens (pattern : Pattern) (around : List (Bool × Level)) :
    ∃ level : Level, level.pattern = pattern ∧
      Reading.extend? ⟨.empty, around⟩ pattern.tokens = some ⟨level, around⟩ := by
  cases pattern with
  | only branch =>
      exact ⟨⟨branch, none⟩, rfl, Branch.extend?_tokens branch none around⟩
  | either branch others =>
      obtain ⟨level, hlevel, hread⟩ := extend?_tokens others around
      refine ⟨⟨branch, some others⟩, rfl, ?_⟩
      rw [tokens, Reading.extend?_append, Reading.extend?_cons, hread]
      simp only [Option.bind_some, Reading.push?, hlevel]
      exact Branch.extend?_tokens branch (some others) around

theorem Branch.extend?_tokens (branch : Branch) (others : Option Pattern)
    (around : List (Bool × Level)) :
    Reading.extend? ⟨⟨.done, others⟩, around⟩ branch.tokens = some ⟨⟨branch, others⟩, around⟩ := by
  cases branch with
  | done => rfl
  | char c rest =>
      simp [Branch.tokens, Reading.extend?_cons, Branch.extend?_tokens rest, Reading.push?]
  | start rest =>
      simp [Branch.tokens, Reading.extend?_cons, Branch.extend?_tokens rest, Reading.push?]
  | finish rest =>
      simp [Branch.tokens, Reading.extend?_cons, Branch.extend?_tokens rest, Reading.push?]
  | anything rest =>
      simp [Branch.tokens, Reading.extend?_cons, Branch.extend?_tokens rest, Reading.push?]
  | group body optional rest =>
      obtain ⟨level, hlevel, hread⟩ :=
        extend?_tokens body ((optional, ⟨rest, others⟩) :: around)
      rw [Branch.tokens, Reading.extend?_cons, Reading.extend?_append, Reading.extend?_cons,
        Branch.extend?_tokens rest]
      simp [Reading.push?, hread, hlevel]

end

/-- The pieces that have been read: those of the group in hand, and around it those behind the group
inside. -/
def Reading.tokens (reading : Reading) : List Token :=
  reading.level.pattern.tokens ++
    reading.around.flatMap fun (optional, outer) => .closeGroup optional :: outer.pattern.tokens

theorem Reading.tokens_of_push? {reading next : Reading} {token : Token}
    (h : reading.push? token = some next) : next.tokens = token :: reading.tokens := by
  obtain ⟨⟨branch, others⟩, around⟩ := reading
  cases token with
  | openGroup =>
      cases around with
      | nil => contradiction
      | cons outer around =>
          obtain ⟨optional, ⟨outerBranch, outerOthers⟩⟩ := outer
          obtain rfl := Option.some.inj h
          cases outerOthers <;>
            simp [Reading.tokens, Level.pattern, Pattern.tokens, Branch.tokens]
  | bar | closeGroup _ =>
      obtain rfl := Option.some.inj h
      rfl
  | char _ | start | finish | anything =>
      obtain rfl := Option.some.inj h
      cases others <;> rfl

theorem Reading.tokens_of_extend? {reading next : Reading} {tokens : List Token}
    (h : reading.extend? tokens = some next) : next.tokens = tokens ++ reading.tokens := by
  induction tokens generalizing next with
  | nil =>
      obtain rfl := Option.some.inj h
      rfl
  | cons token tokens ih =>
      rw [extend?_cons] at h
      obtain ⟨last, hlast, hpush⟩ := Option.bind_eq_some_iff.mp h
      rw [tokens_of_push? hpush, ih hlast]
      rfl

theorem parse?_eq_some_iff {source : List Char} {pattern : Pattern} :
    parse? source = some pattern ↔ scan? source = some pattern.tokens := by
  constructor
  · intro h
    obtain ⟨tokens, hscan, h⟩ := Option.bind_eq_some_iff.mp h
    obtain ⟨⟨level, around⟩, hread, h⟩ := Option.bind_eq_some_iff.mp h
    obtain ⟨haround, hlevel⟩ := Option.ite_none_right_eq_some.mp h
    have htokens := Reading.tokens_of_extend? hread
    obtain rfl := List.isEmpty_iff.mp haround
    obtain rfl := Option.some.inj hlevel
    rw [hscan]
    simpa [Reading.tokens, Level.empty, Level.pattern, Pattern.tokens, Branch.tokens] using
      htokens.symm
  · intro h
    obtain ⟨level, hlevel, hread⟩ := extend?_tokens pattern []
    simp [parse?, h, hread, hlevel]

/-- What is written is read back. -/
theorem parse?_source (pattern : Pattern) : parse? pattern.source = some pattern :=
  parse?_eq_some_iff.mpr (scan?_written pattern.tokens)

theorem source_injective {p q : Pattern} (h : p.source = q.source) : p = q := by
  have hp := parse?_source p
  rw [h, parse?_source q] at hp
  exact (Option.some.inj hp).symm

end CleanupRules.Pattern
