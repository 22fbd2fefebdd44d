import CleanupRules.Text.Utf8
import CleanupRules.Url

/-!
The cut of a URL made on its bytes, from position to position. Every byte that is read and every text
that is cut out is checked to be there; on the bytes of a text no check fails, and the positions are
those of the cut made on characters.
-/

namespace CleanupRules.Url.Scan

open Text (FallsBetweenChars byteLength isBoundary isOneOf utf8)

/-- A position behind the last byte, or two positions with no text between them. -/
inductive Fault
  | beyond (position : Nat)
  | uncuttable (first last : Nat)
  deriving DecidableEq

def byteAt (bytes : List UInt8) (position : Nat) : Except Fault UInt8 :=
  match bytes[position]? with
  | some byte => .ok byte
  | none => .error (.beyond position)

def bytesFrom (bytes : List UInt8) (position : Nat) : Except Fault (List UInt8) :=
  if position ≤ bytes.length then .ok (bytes.drop position) else .error (.beyond position)

/-- The bytes between two positions, neither of them within a character. -/
def cut (bytes : List UInt8) (first last : Nat) : Except Fault (List UInt8) :=
  if first ≤ last ∧ isBoundary bytes first ∧ isBoundary bytes last then
    .ok ((bytes.take last).drop first)
  else .error (.uncuttable first last)

/-- Where one of these characters of ASCII comes first, not before the given position. -/
def find? (chars : List Char) (bytes : List UInt8) (position : Nat) : Except Fault (Option Nat) :=
  if position < bytes.length then do
    let byte ← byteAt bytes position
    if isOneOf chars byte then .ok (some position) else find? chars bytes (position + 1)
  else .ok none
termination_by bytes.length - position

/-- Do two slashes follow the byte at this position? -/
def slashesFollow (bytes : List UInt8) (position : Nat) : Except Fault Bool :=
  if position + 2 < bytes.length then do
    let first ← byteAt bytes (position + 1)
    let second ← byteAt bytes (position + 2)
    .ok (isOneOf ['/'] first && isOneOf ['/'] second)
  else .ok false

/-- The position behind the `://` of the first colon. -/
def schemeEnd? (bytes : List UInt8) : Except Fault (Option Nat) := do
  match ← find? [':'] bytes 0 with
  | none => .ok none
  | some colon =>
      let slashes ← slashesFollow bytes colon
      .ok (if slashes then some (colon + 3) else none)

/-- The position behind the user information. -/
def hostStart (bytes : List UInt8) (schemeEnd : Nat) : Except Fault Nat := do
  match ← find? ['@', '/', '?', '#'] bytes schemeEnd with
  | none => .ok schemeEnd
  | some position =>
      let byte ← byteAt bytes position
      .ok (if isOneOf ['@'] byte then position + 1 else schemeEnd)

/-- The position behind the host, unless an opening bracket stays open. -/
def hostEnd? (bytes : List UInt8) (start : Nat) : Except Fault (Option Nat) := do
  if bytes[start]?.any (isOneOf ['[']) then
    let rest ← bytesFrom bytes start
    let close ← find? [']'] rest 0
    .ok (close.map (start + · + 1))
  else
    let stop ← find? [':', '/', '?', '#'] bytes start
    .ok (some (stop.getD bytes.length))

def hostSpan? (bytes : List UInt8) : Except Fault (Option (Nat × Nat)) := do
  match ← schemeEnd? bytes with
  | none => .ok none
  | some schemeEnd =>
      let start ← hostStart bytes schemeEnd
      let last ← hostEnd? bytes start
      .ok (last.map (start, ·))

def host? (bytes : List UInt8) : Except Fault (Option (List UInt8)) := do
  match ← hostSpan? bytes with
  | none => .ok none
  | some (first, last) =>
      let host ← cut bytes first last
      .ok (some host)

theorem find?_append_cons {chars : List Char} (front : List UInt8) (byte : UInt8)
    (rest : List UInt8) :
    find? chars (front ++ byte :: rest) front.length =
      if isOneOf chars byte then .ok (some front.length)
      else find? chars (front ++ byte :: rest) (front.length + 1) := by
  have hbyte : byteAt (front ++ byte :: rest) front.length = .ok byte := by
    simp [byteAt]
  rw [find?, if_pos (by simp), hbyte]
  rfl

theorem find?_skip {chars : List Char} {front run rest : List UInt8}
    (h : ∀ byte ∈ run, isOneOf chars byte = false) :
    find? chars (front ++ (run ++ rest)) front.length =
      find? chars (front ++ run ++ rest) (front ++ run).length := by
  induction run generalizing front with
  | nil => simp
  | cons byte run ih =>
      have hrest := @ih (front ++ [byte]) fun b hb => h b (List.mem_cons_of_mem byte hb)
      rw [List.cons_append, find?_append_cons, if_neg (by simp [h byte List.mem_cons_self])]
      simpa using hrest

theorem byteAt_append {front bytes : List UInt8} {offset : Nat} {byte : UInt8}
    (h : bytes[offset]? = some byte) : byteAt (front ++ bytes) (front.length + offset) = .ok byte := by
  rw [byteAt, List.getElem?_append_right (Nat.le_add_right _ _), Nat.add_sub_cancel_left, h]

section Text

variable {chars : List Char} (hascii : chars.all (·.toNat < 128))

include hascii

theorem find?_utf8_of_none {text : List Char} (h : ∀ c ∈ text, c ∉ chars) (front : List Char) :
    find? chars (utf8 (front ++ text)) (byteLength front) = .ok none := by
  have hnone := Text.isOneOf_of_mem_utf8 hascii h
  have hskip := @find?_skip chars (utf8 front) (utf8 text) [] hnone
  rw [List.append_nil, List.append_nil, ← Text.utf8_append, Text.length_utf8] at hskip
  rw [hskip, find?, if_neg (by simp)]

theorem find?_utf8_of_first {run : List Char} {d : Char} (hrun : ∀ c ∈ run, c ∉ chars)
    (hd : d ∈ chars) (front rest : List Char) :
    find? chars (utf8 (front ++ (run ++ d :: rest))) (byteLength front) =
      .ok (some (byteLength (front ++ run))) := by
  have hnone := Text.isOneOf_of_mem_utf8 hascii hrun
  obtain ⟨first, more, hbytes, -, -⟩ := Text.exists_utf8EncodeChar d
  have hfirst : isOneOf chars first = true := by
    rw [Text.isOneOf_iff_of_mem hascii (by rw [hbytes]; exact List.mem_cons_self)]
    exact hd
  rw [Text.utf8_append, Text.utf8_append run, ← Text.length_utf8 front, find?_skip hnone,
    Text.utf8_cons, hbytes, List.cons_append, find?_append_cons, if_pos hfirst,
    ← Text.utf8_append, Text.length_utf8]

theorem find?_zero_of_none {text : List Char} (h : ∀ c ∈ text, c ∉ chars) :
    find? chars (utf8 text) 0 = .ok none := by
  simpa using find?_utf8_of_none hascii h []

theorem find?_zero_of_first {run : List Char} {d : Char} (hrun : ∀ c ∈ run, c ∉ chars)
    (hd : d ∈ chars) (rest : List Char) :
    find? chars (utf8 (run ++ d :: rest)) 0 = .ok (some (byteLength run)) := by
  simpa using find?_utf8_of_first hascii hrun hd [] rest

end Text

theorem ok_bind {α β : Type} (value : α) (next : α → Except Fault β) :
    (Except.ok value >>= next) = next value := rfl

theorem exists_getElem?_utf8 (front : List Char) (c : Char) (rest : List Char) :
    ∃ byte ∈ String.utf8EncodeChar c,
      (utf8 (front ++ c :: rest))[byteLength front]? = some byte := by
  obtain ⟨first, more, hbytes, -, -⟩ := Text.exists_utf8EncodeChar c
  refine ⟨first, by rw [hbytes]; exact List.mem_cons_self, ?_⟩
  rw [Text.utf8_append, List.getElem?_append_right (by simp), Text.length_utf8, Nat.sub_self,
    Text.utf8_cons, hbytes]
  rfl

theorem isOneOf_singleton_iff {c d : Char} {byte : UInt8} (hd : d.toNat < 128)
    (hbyte : byte ∈ String.utf8EncodeChar c) : isOneOf [d] byte = true ↔ c = d := by
  rw [Text.isOneOf_iff_of_mem (by simpa using hd) hbyte, List.mem_singleton]

theorem exists_first (chars text : List Char) :
    (∀ c ∈ text, c ∉ chars) ∨
      ∃ run d rest, text = run ++ d :: rest ∧ (∀ c ∈ run, c ∉ chars) ∧ d ∈ chars := by
  cases hfind : text.find? (· ∈ chars) with
  | none => exact Or.inl (by simpa using hfind)
  | some d =>
      obtain ⟨hd, run, rest, htext, hrun⟩ := List.find?_eq_some_iff_append.mp hfind
      exact Or.inr ⟨run, d, rest, htext, by simpa using hrun, by simpa using hd⟩

theorem isOneOf_slash_iff {text : List Char} {byte : UInt8} {more : List UInt8}
    (h : utf8 text = byte :: more) :
    isOneOf ['/'] byte = true ↔ ∃ rest, text = '/' :: rest ∧ utf8 rest = more := by
  cases text with
  | nil => contradiction
  | cons c rest =>
      obtain ⟨first, hfirst, hget⟩ := exists_getElem?_utf8 [] c rest
      rw [List.nil_append, h] at hget
      obtain rfl : byte = first := Option.some.inj hget
      rw [isOneOf_singleton_iff (by decide) hfirst]
      constructor
      · rintro rfl
        exact ⟨rest, rfl, (List.cons.inj h).2⟩
      · rintro ⟨_, heq, -⟩
        exact (List.cons.inj heq).1

theorem slashes_prefix_iff {text : List Char} :
    ['/', '/'] <+: text ↔ ∃ first second more, utf8 text = first :: second :: more ∧
      isOneOf ['/'] first = true ∧ isOneOf ['/'] second = true := by
  constructor
  · rintro ⟨rest, rfl⟩
    exact ⟨_, _, utf8 rest, rfl, rfl, rfl⟩
  · rintro ⟨first, second, more, hbytes, hfirst, hsecond⟩
    obtain ⟨rest, rfl, hrest⟩ := (isOneOf_slash_iff hbytes).mp hfirst
    obtain ⟨rest, rfl, -⟩ := (isOneOf_slash_iff hrest).mp hsecond
    exact ⟨rest, rfl⟩

theorem slashesFollow_utf8 (scheme rest : List Char) :
    slashesFollow (utf8 (scheme ++ ':' :: rest)) (byteLength scheme) =
      .ok (decide (['/', '/'] <+: rest)) := by
  have hbytes : utf8 (scheme ++ ':' :: rest) = utf8 scheme ++ ':'.toUInt8 :: utf8 rest := by
    rw [Text.utf8_append, Text.utf8_cons]
    rfl
  rw [slashesFollow, hbytes, ← Text.length_utf8 scheme]
  rcases hrest : utf8 rest with _ | ⟨first, _ | ⟨second, more⟩⟩
  · have hnone : ¬ ['/', '/'] <+: rest := by simp [slashes_prefix_iff, hrest]
    simp [hnone]
  · have hnone : ¬ ['/', '/'] <+: rest := by simp [slashes_prefix_iff, hrest]
    simp [hnone]
  · have hboth : (isOneOf ['/'] first && isOneOf ['/'] second) = decide (['/', '/'] <+: rest) := by
      rw [Bool.eq_iff_iff, Bool.and_eq_true, decide_eq_true_eq, slashes_prefix_iff, hrest]
      constructor
      · rintro ⟨hfirst, hsecond⟩
        exact ⟨first, second, more, rfl, hfirst, hsecond⟩
      · rintro ⟨_, _, _, heq, hfirst, hsecond⟩
        cases heq
        exact ⟨hfirst, hsecond⟩
    rw [if_pos (by simp), byteAt_append rfl, ok_bind, byteAt_append rfl, ok_bind, hboth]

theorem schemeEnd?_utf8 (url : List Char) :
    schemeEnd? (utf8 url) = .ok (Url.schemeEnd? url) := by
  rw [schemeEnd?]
  by_cases hcolon : ':' ∈ url
  · obtain ⟨scheme, rest, rfl, hscheme⟩ := List.eq_append_cons_of_mem hcolon
    have hrun : ∀ c ∈ scheme, c ∉ [':'] := by
      intro c hc
      rw [List.mem_singleton]
      exact ne_of_mem_of_not_mem hc hscheme
    rw [find?_zero_of_first (by decide) hrun (List.mem_singleton_self ':'), ok_bind,
      Url.schemeEnd?_append hscheme]
    simp only [slashesFollow_utf8, ok_bind, decide_eq_true_eq]
  · have hnone : ∀ c ∈ url, c ∉ [':'] := by
      intro c hc
      rw [List.mem_singleton]
      exact ne_of_mem_of_not_mem hc hcolon
    rw [find?_zero_of_none (by decide) hnone, ok_bind, Url.schemeEnd?_of_no_colon hcolon]

theorem not_mem_userStops_iff {c : Char} :
    c ∉ ['@', '/', '?', '#'] ↔ c ≠ '@' ∧ endsAuthority c = false := by
  simp [endsAuthority, and_assoc]

theorem hostStart_utf8 (scheme after : List Char) :
    hostStart (utf8 (scheme ++ after)) (byteLength scheme) =
      .ok (byteLength (scheme ++ (splitUser after).1)) := by
  rw [hostStart]
  rcases exists_first ['@', '/', '?', '#'] after with hnone | ⟨user, d, rest, rfl, huser, hd⟩
  · have hplain : ∀ c ∈ after, c ≠ '@' ∧ endsAuthority c = false :=
      fun c hc => not_mem_userStops_iff.mp (hnone c hc)
    have hsplit := @Url.splitUser_of_no_user after [] hplain (by simp)
    rw [List.append_nil] at hsplit
    rw [find?_utf8_of_none (by decide) hnone, ok_bind, hsplit, List.append_nil]
  · have hplain : ∀ c ∈ user, c ≠ '@' ∧ endsAuthority c = false :=
      fun c hc => not_mem_userStops_iff.mp (huser c hc)
    obtain ⟨byte, hbyte, hget⟩ := exists_getElem?_utf8 (scheme ++ user) d rest
    rw [List.append_assoc] at hget
    rw [find?_utf8_of_first (by decide) huser hd, ok_bind]
    simp only [byteAt, hget, ok_bind]
    by_cases hat : d = '@'
    · subst hat
      rw [if_pos ((isOneOf_singleton_iff (by decide) hbyte).mpr rfl), Url.splitUser_append hplain,
        ← List.append_assoc, Text.byteLength_append (scheme ++ user)]
      rfl
    · have hends : endsAuthority d = true := by
        cases h : endsAuthority d with
        | true => rfl
        | false => exact absurd hd (not_mem_userStops_iff.mpr ⟨hat, h⟩)
      have htail : ∀ c ∈ (d :: rest).head?, endsAuthority c = true := by
        intro c hc
        obtain rfl := Option.some.inj hc
        exact hends
      have hbyte' : ¬ isOneOf ['@'] byte = true := by
        rw [isOneOf_singleton_iff (by decide) hbyte]
        exact hat
      rw [if_neg hbyte', Url.splitUser_of_no_user hplain htail, List.append_nil]

theorem not_mem_hostStops_iff {c : Char} :
    c ∉ [':', '/', '?', '#'] ↔ c ≠ ':' ∧ endsAuthority c = false := by
  simp [endsAuthority, and_assoc]

theorem any_isOneOf_bracket (lead place : List Char) :
    (utf8 (lead ++ place))[byteLength lead]?.any (isOneOf ['[']) = true ↔
      place.head? = some '[' := by
  cases place with
  | nil =>
      rw [List.append_nil, List.getElem?_eq_none (Nat.le_of_eq (Text.length_utf8 lead))]
      simp
  | cons c rest =>
      obtain ⟨byte, hbyte, hget⟩ := exists_getElem?_utf8 lead c rest
      rw [hget, Option.any_some, isOneOf_singleton_iff (by decide) hbyte, List.head?_cons,
        Option.some.injEq]

theorem bytesFrom_utf8 (front back : List Char) :
    bytesFrom (utf8 (front ++ back)) (byteLength front) = .ok (utf8 back) := by
  have hle : byteLength front ≤ (utf8 (front ++ back)).length := by simp
  rw [bytesFrom, if_pos hle, Text.utf8_append, ← Text.length_utf8 front, List.drop_left]

theorem hostEnd?_utf8_of_bracket (lead : List Char) {place : List Char}
    (h : place.head? = some '[') :
    hostEnd? (utf8 (lead ++ place)) (byteLength lead) =
      .ok ((splitHost? place).map fun (host, _) => byteLength (lead ++ host)) := by
  rw [hostEnd?, if_pos ((any_isOneOf_bracket lead place).mpr h), bytesFrom_utf8, ok_bind]
  rcases exists_first [']'] place with hnone | ⟨front, d, rest, rfl, hfront, hd⟩
  · have hopen : ']' ∉ place := fun hmem => hnone _ hmem (List.mem_singleton_self _)
    rw [find?_zero_of_none (by decide) hnone, Url.splitHost?_of_open h hopen]
    rfl
  · obtain rfl := List.mem_singleton.mp hd
    have hopen : ']' ∉ front := fun hmem => hfront _ hmem hd
    have hlast : byteLength lead + byteLength front + 1 = byteLength (lead ++ (front ++ [']'])) := by
      rw [← List.append_assoc, Text.byteLength_append _ [']'], Text.byteLength_append]
      rfl
    rw [find?_zero_of_first (by decide) hfront hd, ok_bind, Url.splitHost?_of_bracket h hopen,
      Option.map_some, Option.map_some, hlast]

theorem hostEnd?_utf8_of_no_bracket (lead : List Char) {place : List Char}
    (h : place.head? ≠ some '[') :
    hostEnd? (utf8 (lead ++ place)) (byteLength lead) =
      .ok ((splitHost? place).map fun (host, _) => byteLength (lead ++ host)) := by
  rw [hostEnd?, if_neg (fun hany => h ((any_isOneOf_bracket lead place).mp hany))]
  rcases exists_first [':', '/', '?', '#'] place with hnone | ⟨name, d, rest, rfl, hname, hd⟩
  · have hplain : ∀ c ∈ place, c ≠ ':' ∧ endsAuthority c = false :=
      fun c hc => not_mem_hostStops_iff.mp (hnone c hc)
    have hsplit := @Url.splitHost?_of_no_bracket place [] hplain (by simp) (by simpa using h)
    rw [List.append_nil] at hsplit
    rw [find?_utf8_of_none (by decide) hnone, ok_bind, hsplit, Option.getD_none, Text.length_utf8]
    rfl
  · have hplain : ∀ c ∈ name, c ≠ ':' ∧ endsAuthority c = false :=
      fun c hc => not_mem_hostStops_iff.mp (hname c hc)
    have hstop : ∀ c ∈ (d :: rest).head?, c = ':' ∨ endsAuthority c = true := by
      intro c hc
      obtain rfl := Option.some.inj hc
      simpa [endsAuthority, or_assoc] using hd
    rw [find?_utf8_of_first (by decide) hname hd, ok_bind,
      Url.splitHost?_of_no_bracket hplain hstop h]
    rfl

theorem hostEnd?_utf8 (lead place : List Char) :
    hostEnd? (utf8 (lead ++ place)) (byteLength lead) =
      .ok ((splitHost? place).map fun (host, _) => byteLength (lead ++ host)) := by
  by_cases h : place.head? = some '['
  · exact hostEnd?_utf8_of_bracket lead h
  · exact hostEnd?_utf8_of_no_bracket lead h

/-- The scan finds the host where the cut on characters finds it. -/
theorem hostSpan?_utf8 (url : List Char) :
    hostSpan? (utf8 url) = .ok (Url.hostSpan? url) := by
  rw [hostSpan?, schemeEnd?_utf8, ok_bind, Url.schemeEnd?, Url.hostSpan?, Url.split?]
  cases hscheme : splitScheme? url with
  | none => rfl
  | some parts =>
      obtain ⟨scheme, after⟩ := parts
      obtain ⟨user, place, huser⟩ : ∃ user place, splitUser after = (user, place) := ⟨_, _, rfl⟩
      have hplace := Url.append_of_splitUser after
      have hstart := hostStart_utf8 scheme after
      have hend := hostEnd?_utf8 (scheme ++ user) place
      rw [huser] at hplace hstart
      rw [List.append_assoc, hplace, Url.append_of_splitScheme? hscheme] at hend
      rw [Url.append_of_splitScheme? hscheme] at hstart
      simp only [Option.map_some, hstart, hend, ok_bind, Option.bind_eq_bind, Option.bind_some,
        huser]
      cases splitHost? place with
      | none => rfl
      | some parts => simp [Url.hostSpan, Nat.add_assoc]

theorem cut_utf8 (lead host rest : List Char) :
    cut (utf8 (lead ++ host ++ rest)) (byteLength lead) (byteLength (lead ++ host)) =
      .ok (utf8 host) := by
  have hle : byteLength lead ≤ byteLength (lead ++ host) := by simp
  have hfirst : FallsBetweenChars (byteLength lead) (lead ++ host ++ rest) :=
    ⟨lead, ⟨host ++ rest, (List.append_assoc lead host rest).symm⟩, rfl⟩
  have hlast : FallsBetweenChars (byteLength (lead ++ host)) (lead ++ host ++ rest) :=
    ⟨lead ++ host, List.prefix_append _ _, rfl⟩
  have hcut : ((utf8 (lead ++ host ++ rest)).take (byteLength (lead ++ host))).drop
      (byteLength lead) = utf8 host := by
    rw [Text.utf8_append, ← Text.length_utf8 (lead ++ host), List.take_left, Text.utf8_append,
      ← Text.length_utf8 lead, List.drop_left]
  rw [← Text.isBoundary_utf8_iff] at hfirst hlast
  rw [cut, if_pos ⟨hle, hfirst, hlast⟩, hcut]

example : cut (utf8 "é".toList) 0 1 = .error (.uncuttable 0 1) := rfl

theorem host?_utf8 (url : List Char) : host? (utf8 url) = .ok ((Url.host? url).map utf8) := by
  rw [host?, hostSpan?_utf8, ok_bind, Url.hostSpan?, Url.host?]
  cases hsplit : Url.split? url with
  | none => rfl
  | some parts =>
      have hcut := cut_utf8 parts.lead parts.host parts.rest
      rw [Url.append_of_split? hsplit, Text.byteLength_append] at hcut
      simp only [Option.map_some, Url.hostSpan, hcut, ok_bind]

end CleanupRules.Url.Scan
