import CleanupRules.Url

/-!
URLs put together from their parts. The host that is cut out of such a URL is the host that went in,
whatever the tail of the URL holds.
-/

namespace CleanupRules.Proofs.UrlAssembly

open Url (endsAuthority splitHost? splitScheme? splitUser)

/-- A host that is no address in brackets. -/
def IsName (host : Host) : Prop :=
  host.head? ≠ some '[' ∧ ∀ c ∈ host, c ≠ ':' ∧ c ≠ '@' ∧ endsAuthority c = false

def IsBracketed (host : Host) : Prop :=
  ∃ inside, host = '[' :: inside ++ [']'] ∧
    ∀ c ∈ inside, c ≠ ']' ∧ c ≠ '@' ∧ endsAuthority c = false

/-- The parts of a URL, each without the characters that would end it early. Nothing is asked of the
tail behind its first character. -/
structure Parts where
  scheme : List Char
  user : Option (List Char)
  host : Host
  port : Option (List Char)
  tail : List Char
  scheme_colon : ':' ∉ scheme
  user_plain : ∀ text ∈ user, ∀ c ∈ text, c ≠ '@' ∧ endsAuthority c = false
  host_form : IsName host ∨ IsBracketed host
  port_plain : ∀ text ∈ port, ∀ c ∈ text, c ≠ '@' ∧ endsAuthority c = false
  tail_ends : ∀ c ∈ tail.head?, endsAuthority c = true

namespace Parts

def portText (parts : Parts) : List Char :=
  parts.port.elim [] (':' :: ·)

def userText (parts : Parts) : List Char :=
  parts.user.elim [] (· ++ ['@'])

/-- The URL with these parts. -/
def text (parts : Parts) : List Char :=
  parts.scheme ++ "://".toList ++ parts.userText ++ parts.host ++ parts.portText ++ parts.tail

variable (parts : Parts)

theorem host_plain : ∀ c ∈ parts.host, c ≠ '@' ∧ endsAuthority c = false := by
  rcases parts.host_form with ⟨-, hname⟩ | ⟨inside, hhost, hinside⟩
  · intro c hc
    exact (hname c hc).2
  · intro c hc
    rw [hhost] at hc
    simp only [List.cons_append, List.mem_cons, List.mem_append, List.not_mem_nil, or_false] at hc
    rcases hc with rfl | hc | rfl
    · decide
    · exact (hinside c hc).2
    · decide

theorem portText_plain : ∀ c ∈ parts.portText, c ≠ '@' ∧ endsAuthority c = false := by
  intro c hc
  rw [portText] at hc
  cases hport : parts.port with
  | none => simp [hport] at hc
  | some port =>
      rw [hport] at hc
      rcases List.mem_cons.mp hc with rfl | hmem
      · decide
      · exact parts.port_plain port hport c hmem

theorem rest_stops :
    ∀ c ∈ (parts.portText ++ parts.tail).head?, c = ':' ∨ endsAuthority c = true := by
  intro c hc
  rw [portText] at hc
  cases hport : parts.port with
  | none =>
      rw [hport] at hc
      exact Or.inr (parts.tail_ends c hc)
  | some port =>
      rw [hport] at hc
      exact Or.inl (Option.some.inj hc).symm

theorem splitUser_text :
    splitUser (parts.userText ++ (parts.host ++ parts.portText ++ parts.tail)) =
      (parts.userText, parts.host ++ parts.portText ++ parts.tail) := by
  rw [userText]
  cases huser : parts.user with
  | none =>
      apply Url.splitUser_of_no_user _ parts.tail_ends
      intro c hc
      rcases List.mem_append.mp hc with hhost | hport
      · exact parts.host_plain c hhost
      · exact parts.portText_plain c hport
  | some user =>
      rw [Option.elim_some, List.append_assoc]
      exact Url.splitUser_append (parts.user_plain user huser) _

theorem splitHost?_text :
    splitHost? (parts.host ++ (parts.portText ++ parts.tail)) =
      some (parts.host, parts.portText ++ parts.tail) := by
  rcases parts.host_form with ⟨hbracket, hname⟩ | ⟨inside, hhost, hinside⟩
  · apply Url.splitHost?_of_no_bracket
    · intro c hc
      exact ⟨(hname c hc).1, (hname c hc).2.2⟩
    · exact parts.rest_stops
    · cases hhost : parts.host with
      | nil =>
          intro hhead
          exact absurd (parts.rest_stops '[' hhead) (by decide)
      | cons c host => simpa [hhost] using hbracket
  · have hopen : '[' :: inside ++ [']'] ++ (parts.portText ++ parts.tail) =
        '[' :: inside ++ ']' :: (parts.portText ++ parts.tail) := by
      rw [List.append_assoc]
      rfl
    rw [hhost, hopen]
    apply Url.splitHost?_of_bracket rfl
    intro hmem
    rcases List.mem_cons.mp hmem with heq | hmem
    · contradiction
    · exact (hinside ']' hmem).1 rfl

/-- Cutting undoes assembling. -/
theorem host?_text : Url.host? parts.text = some parts.host := by
  have hscheme : splitScheme? parts.text = some (parts.scheme ++ [':', '/', '/'],
      parts.userText ++ (parts.host ++ parts.portText ++ parts.tail)) := by
    rw [← Url.splitScheme?_append parts.scheme_colon]
    simp [text]
  have hhost := parts.splitHost?_text
  rw [← List.append_assoc] at hhost
  rw [Url.host?, Url.split?_eq_some hscheme parts.splitUser_text hhost]
  rfl

theorem host?_text_bracketed :
    ∃ parts : Parts, parts.text = "https://u:p@[::1]:8/@http://[a]".toList ∧
      Url.host? parts.text = some "[::1]".toList := by
  let parts : Parts :=
    { scheme := "https".toList
      user := some "u:p".toList
      host := "[::1]".toList
      port := some "8".toList
      tail := "/@http://[a]".toList
      scheme_colon := by decide
      user_plain := by simp [endsAuthority]
      host_form := Or.inr ⟨"::1".toList, rfl, by simp [endsAuthority]⟩
      port_plain := by simp [endsAuthority]
      tail_ends := by simp [endsAuthority] }
  exact ⟨parts, rfl, host?_text parts⟩

end Parts

end CleanupRules.Proofs.UrlAssembly
