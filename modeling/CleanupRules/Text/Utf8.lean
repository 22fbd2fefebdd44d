import CleanupRules.Text.Bytes

/-!
Texts as their UTF-8 bytes. The bytes of a character beyond ASCII are unlike all characters of ASCII,
so these can be looked for byte by byte. A position falls between two characters exactly if no byte
that continues a character stands there.
-/

namespace CleanupRules.Text

def utf8 (text : List Char) : List UInt8 :=
  text.flatMap String.utf8EncodeChar

@[simp] theorem utf8_nil : utf8 [] = [] := rfl

@[simp] theorem utf8_cons (c : Char) (rest : List Char) :
    utf8 (c :: rest) = String.utf8EncodeChar c ++ utf8 rest := rfl

@[simp] theorem utf8_append (front back : List Char) : utf8 (front ++ back) = utf8 front ++ utf8 back :=
  List.flatMap_append

@[simp] theorem length_utf8 (text : List Char) : (utf8 text).length = byteLength text := by
  induction text with
  | nil => rfl
  | cons c rest ih => rw [utf8_cons, List.length_append, String.length_utf8EncodeChar, ih, byteLength]

/-- Is the byte one of these characters of ASCII? -/
def isOneOf (chars : List Char) (byte : UInt8) : Bool :=
  chars.any fun c => byte == c.toUInt8

/-- Does the byte continue a character, being neither its first one nor a character of ASCII? -/
def continues (byte : UInt8) : Bool :=
  128 ≤ byte.toNat && byte.toNat < 192

/-- Is the position in a text, and not within a character? -/
def isBoundary (bytes : List UInt8) (position : Nat) : Bool :=
  position == 0 ||
    match bytes[position]? with
    | some byte => !continues byte
    | none => position == bytes.length

/-- Some initial part of the text ends at the position, which then splits no character. -/
def FallsBetweenChars (position : Nat) (text : List Char) : Prop :=
  ∃ front, front <+: text ∧ byteLength front = position

theorem continues_ofNat (n : Nat) : continues (UInt8.ofNat (n % 64 + 128)) = true := by
  have hcode : (UInt8.ofNat (n % 64 + 128)).toNat = n % 64 + 128 :=
    UInt8.toNat_ofNat_of_lt' (by change n % 64 + 128 < 256; omega)
  simp only [continues, hcode, Bool.and_eq_true, decide_eq_true_eq]
  omega

theorem utf8EncodeChar_cases (c : Char) :
    (c.toNat < 128 ∧ String.utf8EncodeChar c = [UInt8.ofNat c.toNat]) ∨
      128 ≤ c.toNat ∧ ∃ first rest, String.utf8EncodeChar c = first :: rest ∧ 192 ≤ first.toNat ∧
        ∀ byte ∈ rest, continues byte = true := by
  have hcode : ∀ n, n < 256 → (UInt8.ofNat n).toNat = n := fun n hn => UInt8.toNat_ofNat_of_lt' hn
  fun_cases String.utf8EncodeChar c with
  | case1 code hone =>
      exact Or.inl ⟨Nat.lt_succ_of_le hone, rfl⟩
  | case2 code hone htwo =>
      refine Or.inr ⟨Nat.not_le.mp hone, _, _, rfl, ?_, ?_⟩
      · rw [hcode _ (by omega)]
        omega
      · exact List.forall_mem_singleton.mpr (continues_ofNat _)
  | case3 code hone htwo hthree =>
      refine Or.inr ⟨Nat.not_le.mp hone, _, _, rfl, ?_, ?_⟩
      · rw [hcode _ (by omega)]
        omega
      · simp only [List.mem_cons, List.not_mem_nil, or_false, forall_eq_or_imp, forall_eq,
          continues_ofNat, and_self]
  | case4 code hone htwo hthree =>
      refine Or.inr ⟨Nat.not_le.mp hone, _, _, rfl, ?_, ?_⟩
      · rw [hcode _ (by omega)]
        omega
      · simp only [List.mem_cons, List.not_mem_nil, or_false, forall_eq_or_imp, forall_eq,
          continues_ofNat, and_self]

theorem toNat_toUInt8 {c : Char} (h : c.toNat < 128) : c.toUInt8.toNat = c.toNat :=
  Nat.mod_eq_of_lt (Nat.lt_trans h (by decide))

/-- Looking for characters of ASCII, every byte of a character answers for it. -/
theorem isOneOf_iff_of_mem {chars : List Char} (hascii : chars.all (·.toNat < 128)) {c : Char}
    {byte : UInt8} (hbyte : byte ∈ String.utf8EncodeChar c) :
    isOneOf chars byte = true ↔ c ∈ chars := by
  have hsame : ∀ d ∈ chars, byte = d.toUInt8 ↔ c = d := by
    intro d hd
    have hd' := of_decide_eq_true (List.all_eq_true.mp hascii d hd)
    rw [← UInt8.toNat_inj, toNat_toUInt8 hd', ← Char.toNat_inj]
    rcases utf8EncodeChar_cases c with ⟨hc, hbytes⟩ | ⟨hc, first, rest, hbytes, hfirst, hrest⟩
    · rw [hbytes, List.mem_singleton] at hbyte
      rw [hbyte, UInt8.toNat_ofNat_of_lt' (Nat.lt_trans hc (by decide))]
    · have hlarge : 128 ≤ byte.toNat := by
        rw [hbytes] at hbyte
        rcases List.mem_cons.mp hbyte with rfl | hmem
        · omega
        · have hcontinues := hrest byte hmem
          simp only [continues, Bool.and_eq_true, decide_eq_true_eq] at hcontinues
          exact hcontinues.1
      omega
  rw [isOneOf, List.any_eq_true]
  constructor
  · rintro ⟨d, hd, heq⟩
    rwa [(hsame d hd).mp (beq_iff_eq.mp heq)]
  · intro hc
    exact ⟨c, hc, beq_iff_eq.mpr ((hsame c hc).mpr rfl)⟩

theorem isOneOf_of_mem_utf8 {chars : List Char} (hascii : chars.all (·.toNat < 128))
    {text : List Char} (h : ∀ c ∈ text, c ∉ chars) :
    ∀ byte ∈ utf8 text, isOneOf chars byte = false := by
  intro byte hbyte
  obtain ⟨c, hc, hmem⟩ := List.mem_flatMap.mp hbyte
  rw [Bool.eq_false_iff, ne_eq, isOneOf_iff_of_mem hascii hmem]
  exact h c hc

theorem exists_utf8EncodeChar (c : Char) :
    ∃ first more, String.utf8EncodeChar c = first :: more ∧ continues first = false ∧
      ∀ byte ∈ more, continues byte = true := by
  rcases utf8EncodeChar_cases c with ⟨hc, hbytes⟩ | ⟨-, first, more, hbytes, hfirst, hmore⟩
  · refine ⟨_, [], hbytes, ?_, by simp⟩
    rw [continues, UInt8.toNat_ofNat_of_lt' (Nat.lt_trans hc (by decide))]
    simp only [Bool.and_eq_false_iff, decide_eq_false_iff_not]
    omega
  · refine ⟨first, more, hbytes, ?_, hmore⟩
    simp only [continues, Bool.and_eq_false_iff, decide_eq_false_iff_not]
    omega

theorem isBoundary_byteLength (front back : List Char) :
    isBoundary (utf8 (front ++ back)) (byteLength front) = true := by
  have hbyte : (utf8 (front ++ back))[byteLength front]? = (utf8 back)[0]? := by
    rw [utf8_append, List.getElem?_append_right (by simp), length_utf8, Nat.sub_self]
  rw [isBoundary, hbyte]
  cases back with
  | nil => simp
  | cons c back =>
      obtain ⟨first, more, hbytes, hfirst, -⟩ := exists_utf8EncodeChar c
      simp [hbytes, hfirst]

theorem not_isBoundary_within {c : Char} {rest : List Char} {position : Nat} (hpos : 0 < position)
    (hwithin : position < c.utf8Size) : isBoundary (utf8 (c :: rest)) position = false := by
  obtain ⟨first, more, hbytes, -, hmore⟩ := exists_utf8EncodeChar c
  have hsize := String.length_utf8EncodeChar c
  obtain ⟨offset, rfl⟩ := Nat.exists_eq_add_of_lt hpos
  rw [hbytes, List.length_cons] at hsize
  have hoffset : offset < more.length := by omega
  have hbyte : (utf8 (c :: rest))[0 + offset + 1]? = some more[offset] := by
    rw [utf8_cons, hbytes, List.cons_append, List.getElem?_cons_succ, Nat.zero_add,
      List.getElem?_append_left hoffset, List.getElem?_eq_getElem hoffset]
  rw [isBoundary, hbyte]
  simp [hmore _ (List.getElem_mem hoffset)]

theorem isBoundary_of_cons {c : Char} {rest : List Char} {offset : Nat}
    (h : isBoundary (utf8 (c :: rest)) (c.utf8Size + offset) = true) :
    isBoundary (utf8 rest) offset = true := by
  have hpos := c.utf8Size_pos
  have hsize := String.length_utf8EncodeChar c
  have hbyte : (utf8 (c :: rest))[c.utf8Size + offset]? = (utf8 rest)[offset]? := by
    rw [utf8_cons, List.getElem?_append_right (by omega), hsize, Nat.add_sub_cancel_left]
  rw [isBoundary, hbyte] at h
  rw [isBoundary]
  cases hget : (utf8 rest)[offset]? with
  | none =>
      simp only [hget, utf8_cons, List.length_append, hsize, Bool.or_eq_true, beq_iff_eq] at h ⊢
      omega
  | some byte =>
      simp only [hget, Bool.or_eq_true, beq_iff_eq] at h ⊢
      exact h.imp_left (by omega)

theorem isBoundary_utf8_iff {text : List Char} {position : Nat} :
    isBoundary (utf8 text) position = true ↔ FallsBetweenChars position text := by
  constructor
  · intro h
    induction text generalizing position with
    | nil =>
        refine ⟨[], List.nil_prefix, ?_⟩
        simp only [isBoundary, utf8_nil, List.getElem?_nil, List.length_nil, Bool.or_self,
          beq_iff_eq] at h
        exact h.symm
    | cons c rest ih =>
        rcases Nat.eq_zero_or_pos position with hzero | hpos
        · exact ⟨[], List.nil_prefix, hzero.symm⟩
        rcases Nat.lt_or_ge position c.utf8Size with hwithin | hbehind
        · rw [not_isBoundary_within hpos hwithin] at h
          contradiction
        · obtain ⟨offset, rfl⟩ := Nat.exists_eq_add_of_le hbehind
          obtain ⟨front, hfront, rfl⟩ := ih (isBoundary_of_cons h)
          exact ⟨c :: front, List.cons_prefix_cons.mpr ⟨rfl, hfront⟩, rfl⟩
  · rintro ⟨front, ⟨back, rfl⟩, rfl⟩
    exact isBoundary_byteLength front back

end CleanupRules.Text
