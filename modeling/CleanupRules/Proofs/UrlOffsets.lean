import CleanupRules.Url.Scan

/-!
The offsets of a host within the bytes of its URL. Every text can be scanned, whatever its characters
are and wherever it ends: no byte is asked for that is not there, and what is cut out is a text again.
-/

namespace CleanupRules.Proofs.UrlOffsets

open Text (FallsBetweenChars byteLength utf8)

theorem exists_split_of_hostSpan? {url : List Char} {first last : Nat}
    (h : Url.hostSpan? url = some (first, last)) :
    ∃ lead host rest, lead ++ host ++ rest = url ∧ byteLength lead = first ∧
      byteLength (lead ++ host) = last := by
  rw [Url.hostSpan?, Option.map_eq_some_iff] at h
  obtain ⟨parts, hsplit, hspan⟩ := h
  obtain ⟨rfl, rfl⟩ := Prod.mk.inj hspan
  exact ⟨parts.lead, parts.host, parts.rest, Url.append_of_split? hsplit, rfl,
    Text.byteLength_append _ _⟩

theorem schemeEnd?_le_of_hostSpan? {url : List Char} {first last : Nat}
    (h : Url.hostSpan? url = some (first, last)) :
    ∃ schemeEnd, Url.schemeEnd? url = some schemeEnd ∧ schemeEnd ≤ first := by
  rw [Url.hostSpan?, Option.map_eq_some_iff] at h
  obtain ⟨parts, hsplit, hspan⟩ := h
  obtain ⟨rfl, rfl⟩ := Prod.mk.inj hspan
  obtain ⟨scheme, afterScheme, hscheme, hlead, -⟩ := Url.exists_of_split? hsplit
  refine ⟨byteLength scheme, ?_, ?_⟩
  · rw [Url.schemeEnd?, hscheme, Option.map_some]
  · rw [hlead, Text.byteLength_append]
    exact Nat.le_add_right _ _

/-- The scan of a text meets no fault, and what it finds lies within the text: the host starts behind
the scheme, ends before the text does, and splits no character at either end. -/
theorem scan_stays_within (url : List Char) :
    Url.Scan.schemeEnd? (utf8 url) = .ok (Url.schemeEnd? url) ∧
      Url.Scan.hostSpan? (utf8 url) = .ok (Url.hostSpan? url) ∧
      Url.Scan.host? (utf8 url) = .ok ((Url.host? url).map utf8) ∧
      ∀ first last, Url.hostSpan? url = some (first, last) →
        (∃ schemeEnd, Url.schemeEnd? url = some schemeEnd ∧ schemeEnd ≤ first) ∧
          first ≤ last ∧ last ≤ byteLength url ∧
          FallsBetweenChars first url ∧ FallsBetweenChars last url := by
  refine ⟨Url.Scan.schemeEnd?_utf8 url, Url.Scan.hostSpan?_utf8 url, Url.Scan.host?_utf8 url, ?_⟩
  intro first last hspan
  obtain ⟨lead, host, rest, hurl, rfl, rfl⟩ := exists_split_of_hostSpan? hspan
  have hfirst : lead <+: url := ⟨host ++ rest, by rw [← List.append_assoc, hurl]⟩
  have hlast : lead ++ host <+: url := ⟨rest, hurl⟩
  refine ⟨schemeEnd?_le_of_hostSpan? hspan, ?_, ?_, ⟨lead, hfirst, rfl⟩, ⟨lead ++ host, hlast, rfl⟩⟩
  · exact Text.byteLength_le_of_sublist (List.sublist_append_left lead host)
  · exact Text.byteLength_le_of_sublist hlast.sublist

theorem scan_stays_within_multibyte :
    Url.hostSpan? "ü://é@höst:1/ß".toList = some (8, 13) ∧
      Url.Scan.host? (utf8 "ü://é@höst:1/ß".toList) = .ok (some (utf8 "höst".toList)) ∧
      13 ≤ byteLength "ü://é@höst:1/ß".toList ∧
      FallsBetweenChars 8 "ü://é@höst:1/ß".toList ∧
      FallsBetweenChars 13 "ü://é@höst:1/ß".toList := by
  obtain ⟨-, -, hhost, hwithin⟩ := scan_stays_within "ü://é@höst:1/ß".toList
  have hspan : Url.hostSpan? "ü://é@höst:1/ß".toList = some (8, 13) := by decide
  obtain ⟨-, -, hlast, hboundaries⟩ := hwithin 8 13 hspan
  exact ⟨hspan, hhost, hlast, hboundaries⟩

end CleanupRules.Proofs.UrlOffsets
