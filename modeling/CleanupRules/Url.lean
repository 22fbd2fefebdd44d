import CleanupRules.Host.Basic
import CleanupRules.Text.Bytes

/-!
The host within a URL. A URL is cut into what leads to the host, the host, and the rest; the cut
loses nothing, so the place of the host is known from the lengths alone.
-/

namespace CleanupRules

/-- A URL cut around its host. -/
structure Url where
  /-- The scheme with its `://`, and the user information with its `@`. -/
  lead : List Char
  host : Host
  rest : List Char

namespace Url

/-- The scheme with its `://`, and what follows. The first colon decides. -/
def splitScheme? (url : List Char) : Option (List Char × List Char) :=
  match url.dropWhile (· ≠ ':') with
  | ':' :: '/' :: '/' :: rest => some (url.takeWhile (· ≠ ':') ++ [':', '/', '/'], rest)
  | _ => none

def endsAuthority (c : Char) : Bool :=
  c = '/' || c = '?' || c = '#'

/-- The user information with its `@`, and what follows: it ends at the first `@` that no end of
the authority precedes. -/
def splitUser (text : List Char) : List Char × List Char :=
  let inUser := fun c => c ≠ '@' && !endsAuthority c
  match text.dropWhile inUser with
  | '@' :: rest => (text.takeWhile inUser ++ ['@'], rest)
  | _ => ([], text)

/-- The host and what follows it: up to the closing bracket if it opens with one, which must then be
there, and else up to a colon or the end of the authority. -/
def splitHost? (text : List Char) : Option (Host × List Char) :=
  if text.head? = some '[' then
    match text.dropWhile (· ≠ ']') with
    | [] => none
    | close :: rest => some (text.takeWhile (· ≠ ']') ++ [close], rest)
  else
    let inHost := fun c => c ≠ ':' && !endsAuthority c
    some (text.takeWhile inHost, text.dropWhile inHost)

/-- Cuts a URL around its host, if it has a scheme with `://` and no open bracket. -/
def split? (url : List Char) : Option Url := do
  let (scheme, afterScheme) ← splitScheme? url
  let (user, afterUser) := splitUser afterScheme
  let (host, rest) ← splitHost? afterUser
  pure ⟨scheme ++ user, host, rest⟩

/-- The byte offset behind the `://`. -/
def schemeEnd? (url : List Char) : Option Nat :=
  (splitScheme? url).map fun (scheme, _) => Text.byteLength scheme

/-- The byte offsets at which the host starts and ends. -/
def hostSpan (url : Url) : Nat × Nat :=
  (Text.byteLength url.lead, Text.byteLength url.lead + Text.byteLength url.host)

def hostSpan? (url : List Char) : Option (Nat × Nat) :=
  (split? url).map hostSpan

def host? (url : List Char) : Option Host :=
  (split? url).map host

/-- The host of a URL; any other text is taken for a host itself. -/
def hostOf (text : List Char) : Host :=
  (host? text).getD text

theorem append_of_splitScheme? {url scheme rest : List Char}
    (h : splitScheme? url = some (scheme, rest)) : scheme ++ rest = url := by
  simp only [splitScheme?] at h
  split at h
  · rename_i heq
    simp only [Option.some.injEq, Prod.mk.injEq] at h
    obtain ⟨rfl, rfl⟩ := h
    have := List.takeWhile_append_dropWhile (p := (· ≠ ':')) (l := url)
    rw [heq] at this
    simpa using this
  · simp at h

theorem append_of_splitUser (text : List Char) :
    (splitUser text).1 ++ (splitUser text).2 = text := by
  simp only [splitUser]
  split
  · rename_i heq
    have := List.takeWhile_append_dropWhile (p := fun c => c ≠ '@' && !endsAuthority c) (l := text)
    rw [heq] at this
    simpa using this
  · rfl

theorem append_of_splitHost? {text host rest : List Char}
    (h : splitHost? text = some (host, rest)) : host ++ rest = text := by
  simp only [splitHost?] at h
  split at h
  · split at h
    · simp at h
    · rename_i heq
      simp only [Option.some.injEq, Prod.mk.injEq] at h
      obtain ⟨rfl, rfl⟩ := h
      have := List.takeWhile_append_dropWhile (p := (· ≠ ']')) (l := text)
      rw [heq] at this
      simpa using this
  · simp only [Option.some.injEq, Prod.mk.injEq] at h
    obtain ⟨rfl, rfl⟩ := h
    exact List.takeWhile_append_dropWhile

theorem exists_of_split? {text : List Char} {url : Url} (h : split? text = some url) :
    ∃ scheme afterScheme, splitScheme? text = some (scheme, afterScheme) ∧
      url.lead = scheme ++ (splitUser afterScheme).1 ∧
      splitHost? (splitUser afterScheme).2 = some (url.host, url.rest) := by
  simp only [split?, Option.bind_eq_bind, Option.bind_eq_some_iff, Option.pure_def,
    Option.some.injEq] at h
  obtain ⟨⟨scheme, afterScheme⟩, hscheme, ⟨host, rest⟩, hhost, rfl⟩ := h
  exact ⟨scheme, afterScheme, hscheme, rfl, hhost⟩

theorem append_of_split? {text : List Char} {url : Url} (h : split? text = some url) :
    url.lead ++ url.host ++ url.rest = text := by
  obtain ⟨scheme, afterScheme, hscheme, hlead, hhost⟩ := exists_of_split? h
  rw [hlead, List.append_assoc, append_of_splitHost? hhost, List.append_assoc,
    append_of_splitUser, append_of_splitScheme? hscheme]

section Stops

variable {p : Char → Bool} {front rest : List Char}

theorem takeWhile_append_of_stop (hfront : ∀ c ∈ front, p c = true)
    (hrest : ∀ c ∈ rest.head?, p c = false) : (front ++ rest).takeWhile p = front := by
  rw [List.takeWhile_append_of_pos hfront]
  cases rest with
  | nil => simp
  | cons c rest => simp [hrest c rfl]

theorem dropWhile_append_of_stop (hfront : ∀ c ∈ front, p c = true)
    (hrest : ∀ c ∈ rest.head?, p c = false) : (front ++ rest).dropWhile p = rest := by
  rw [List.dropWhile_append_of_pos hfront]
  cases rest with
  | nil => rfl
  | cons c rest => simp [hrest c rfl]

variable {stop : Char} (hstop : stop ∉ front)

include hstop

theorem decide_ne_of_not_mem : ∀ c ∈ front, decide (c ≠ stop) = true := by
  intro c hc
  exact decide_eq_true (ne_of_mem_of_not_mem hc hstop)

theorem takeWhile_ne_append (rest : List Char) :
    (front ++ stop :: rest).takeWhile (· ≠ stop) = front :=
  takeWhile_append_of_stop (decide_ne_of_not_mem hstop) (by simp)

theorem dropWhile_ne_append (rest : List Char) :
    (front ++ stop :: rest).dropWhile (· ≠ stop) = stop :: rest :=
  dropWhile_append_of_stop (decide_ne_of_not_mem hstop) (by simp)

theorem dropWhile_ne_of_not_mem : front.dropWhile (· ≠ stop) = [] := by
  have hdrop := @dropWhile_append_of_stop _ front [] (decide_ne_of_not_mem hstop) (by simp)
  rwa [List.append_nil] at hdrop

end Stops

theorem splitScheme?_append {scheme : List Char} (h : ':' ∉ scheme) (rest : List Char) :
    splitScheme? (scheme ++ ':' :: '/' :: '/' :: rest) =
      some (scheme ++ [':', '/', '/'], rest) := by
  rw [splitScheme?, takeWhile_ne_append h, dropWhile_ne_append h]
  rfl

theorem schemeEnd?_append {scheme : List Char} (h : ':' ∉ scheme) (rest : List Char) :
    schemeEnd? (scheme ++ ':' :: rest) =
      if ['/', '/'] <+: rest then some (Text.byteLength scheme + 3) else none := by
  split
  · rename_i hslashes
    obtain ⟨rest, rfl⟩ := hslashes
    have hsplit := splitScheme?_append h rest
    rw [schemeEnd?, List.cons_append, List.cons_append, List.nil_append, hsplit]
    exact congrArg some (Text.byteLength_append scheme [':', '/', '/'])
  · rename_i hslashes
    rw [schemeEnd?, splitScheme?, dropWhile_ne_append h]
    split
    · rename_i tail heq
      exact absurd ⟨tail, (List.cons.inj heq).2.symm⟩ hslashes
    · rfl

theorem schemeEnd?_of_no_colon {url : List Char} (h : ':' ∉ url) : schemeEnd? url = none := by
  rw [schemeEnd?, splitScheme?, dropWhile_ne_of_not_mem h]
  rfl

theorem splitUser_append {user : List Char}
    (h : ∀ c ∈ user, c ≠ '@' ∧ endsAuthority c = false) (rest : List Char) :
    splitUser (user ++ '@' :: rest) = (user ++ ['@'], rest) := by
  have huser : ∀ c ∈ user, (decide (c ≠ '@') && !endsAuthority c) = true := by
    intro c hc
    simp [h c hc]
  rw [splitUser, takeWhile_append_of_stop huser (by simp),
    dropWhile_append_of_stop huser (by simp)]
  rfl

theorem splitUser_of_no_user {place tail : List Char}
    (hplace : ∀ c ∈ place, c ≠ '@' ∧ endsAuthority c = false)
    (htail : ∀ c ∈ tail.head?, endsAuthority c = true) :
    splitUser (place ++ tail) = ([], place ++ tail) := by
  have hplace' : ∀ c ∈ place, (decide (c ≠ '@') && !endsAuthority c) = true := by
    intro c hc
    simp [hplace c hc]
  have htail' : ∀ c ∈ tail.head?, (decide (c ≠ '@') && !endsAuthority c) = false := by
    intro c hc
    simp [htail c hc]
  simp only [splitUser]
  rw [dropWhile_append_of_stop hplace' htail']
  split
  · exact absurd (htail '@' rfl) (by decide)
  · rfl

theorem splitHost?_of_bracket {front rest : List Char}
    (hbracket : (front ++ ']' :: rest).head? = some '[') (h : ']' ∉ front) :
    splitHost? (front ++ ']' :: rest) = some (front ++ [']'], rest) := by
  rw [splitHost?, if_pos hbracket, takeWhile_ne_append h, dropWhile_ne_append h]

theorem splitHost?_of_open {place : List Char} (hbracket : place.head? = some '[')
    (h : ']' ∉ place) : splitHost? place = none := by
  rw [splitHost?, if_pos hbracket, dropWhile_ne_of_not_mem h]

theorem close_mem_of_splitHost? {text host rest : List Char} (hbracket : text.head? = some '[')
    (h : splitHost? text = some (host, rest)) : ']' ∈ host := by
  rw [splitHost?, if_pos hbracket] at h
  split at h
  · contradiction
  · rename_i close more heq
    have hclose := List.head?_dropWhile_not (fun c => decide (c ≠ ']')) text
    rw [heq] at hclose
    have hclose' : close = ']' := by simpa using hclose
    obtain ⟨rfl, -⟩ := Prod.mk.inj (Option.some.inj h)
    simp [hclose']

theorem splitHost?_of_no_bracket {name rest : List Char}
    (hname : ∀ c ∈ name, c ≠ ':' ∧ endsAuthority c = false)
    (hrest : ∀ c ∈ rest.head?, c = ':' ∨ endsAuthority c = true)
    (hbracket : (name ++ rest).head? ≠ some '[') :
    splitHost? (name ++ rest) = some (name, rest) := by
  have hname' : ∀ c ∈ name, (decide (c ≠ ':') && !endsAuthority c) = true := by
    intro c hc
    simp [hname c hc]
  have hrest' : ∀ c ∈ rest.head?, (decide (c ≠ ':') && !endsAuthority c) = false := by
    intro c hc
    rcases hrest c hc with rfl | hends
    · rfl
    · simp [hends]
  simp only [splitHost?, if_neg hbracket]
  rw [takeWhile_append_of_stop hname' hrest', dropWhile_append_of_stop hname' hrest']

theorem split?_eq_some {text scheme afterScheme user place rest : List Char} {host : Host}
    (hscheme : splitScheme? text = some (scheme, afterScheme))
    (huser : splitUser afterScheme = (user, place))
    (hhost : splitHost? place = some (host, rest)) :
    split? text = some ⟨scheme ++ user, host, rest⟩ := by
  simp [split?, hscheme, huser, hhost]

end Url

end CleanupRules
