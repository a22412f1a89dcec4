import Tablekeep.Proofs.Markup.Spelling
import Tablekeep.Proofs.Text.Utf8
import Mathlib.Data.List.TakeWhile

/-!
# Spelled documents

A document that consists of a declaration and one spelled element, encoded as UTF-8, is
read as that element. The bytes are looked at twice before there are any characters: for
a mark of the encoding, and, as if they were Latin-1, for the declaration. The version is
all that is declared, so the encoding stays the default.
-/

namespace Tablekeep.Markup

/-! ## From the characters to the element -/

/-- The characters are blanks of the markup. -/
def AllSpace (cs : List Char) : Prop :=
  ∀ c ∈ cs, isSpace c = true

theorem skipSpace_append {gap : List Char} (h : AllSpace gap) (rest : List Char) :
    skipSpace (gap ++ rest) = skipSpace rest :=
  List.dropWhile_append_of_pos h

theorem skipMisc_space {gap : List Char} (h : AllSpace gap) (fuel : Nat) :
    skipMisc (fuel + 1) gap = some [] := by
  have hnil : skipSpace gap = [] := by
    simpa [skipSpace] using skipSpace_append h []
  rw [skipMisc, hnil]

theorem skipMisc_length_space {gap : List Char} (h : AllSpace gap) :
    skipMisc gap.length gap = some [] := by
  cases gap with
  | nil => rfl
  | cons c cs => exact skipMisc_space h cs.length

/-- What comes before the outermost element is nothing but blanks. -/
theorem prolog?_space {gap cs : List Char} {c : Char} (h : AllSpace gap)
    (hc : isNameStart c = true) :
    prolog? false (gap ++ '<' :: c :: cs) = some (.empty, '<' :: c :: cs) := by
  have hskip : skipSpace (gap ++ '<' :: c :: cs) = '<' :: c :: cs := by
    rw [skipSpace_append h, skipSpace, List.dropWhile_cons_of_neg (by decide)]
  have hmisc : skipMisc (gap ++ '<' :: c :: cs).length (gap ++ '<' :: c :: cs)
      = some ('<' :: c :: cs) := by
    obtain ⟨n, hn⟩ : ∃ n, (gap ++ '<' :: c :: cs).length = n + 1 := ⟨_, by simp; rfl⟩
    rw [hn, skipMisc, hskip]
    split
    · rename_i heq
      cases heq
      exact absurd hc (by decide)
    · rename_i heq
      cases heq
      exact absurd hc (by decide)
    · rfl
  -- a tag begins with a letter, so no document type is declared
  have hword : word? "<!DOCTYPE" ('<' :: c :: cs) = none := by
    have hlist : "<!DOCTYPE".toList = '<' :: '!' :: "DOCTYPE".toList := rfl
    have hne : '!' ≠ c := by
      rintro rfl
      exact absurd hc (by decide)
    rw [word?, hlist, expect?, if_pos rfl, expect?, if_neg hne]
  simp only [prolog?, hmisc, Option.bind_eq_bind, Option.bind_some, hword]
  rfl

/-- Blanks around a spelled element make no difference. -/
theorem readChars_spelled {name inside before after : List Char} {inner : Content}
    (hname : isName name = true) (hinside : Spelled inside inner) (hbefore : AllSpace before)
    (hafter : AllSpace after) :
    readChars false (before ++ (tagged name inside ++ after))
      = ⟨(⟨String.ofList name, inner⟩ : Element).events, true⟩ := by
  rw [tagged_append]
  have hprolog : prolog? false (before ++ '<' :: (name ++ '>' :: (inside ++ '<' :: '/' ::
        (name ++ '>' :: after))))
      = some (.empty,
          '<' :: (name ++ '>' :: (inside ++ '<' :: '/' :: (name ++ '>' :: after)))) := by
    cases name with
    | nil => cases hname
    | cons c cs =>
        simp only [isName, Bool.and_eq_true] at hname
        exact prolog?_space hbefore hname.1
  obtain ⟨k, hk, hread⟩ :=
    contentFrom_spelled hinside ⟨name, .initial⟩ [] ('/' :: (name ++ '>' :: after))
  simp only [readChars, hprolog, Position.stepStart, startTag?_plain hname]
  generalize hlength : (name ++ '>' :: (inside ++ '<' :: '/' :: (name ++ '>' :: after))).length
    = length
  have hle : k ≤ length := by
    rw [← hlength]
    simp only [List.length_append, List.length_cons]
    omega
  -- the steps that the inside takes and the one for the end tag are within the bound
  obtain ⟨fuel, hfuel⟩ : ∃ fuel, 2 * (expansionLimit + length) + 2 = fuel + 1 + k :=
    ⟨2 * (expansionLimit + length) + 2 - 1 - k, by omega⟩
  simp only [Bool.false_eq_true, ↓reduceIte, hfuel, hread]
  rw [contentFrom, step_close_outermost rfl hname rfl rfl]
  simp [skipMisc_length_space hafter, Element.events]

/-! ## From the bytes to the characters -/

/-- The declaration of the version. -/
def header : List Char := "<?xml version=\"1.0\"?>".toList

theorem normalizeLines_eq_self {cs : List Char} (h : '\r' ∉ cs) : normalizeLines cs = cs := by
  induction cs with
  | nil => rfl
  | cons c cs ih =>
      obtain ⟨hc, hcs⟩ := List.ne_and_not_mem_of_not_mem_cons h
      have hstep : normalizeLines (c :: cs)
          = (if c = '\r' then '\n' else c) :: normalizeLines cs := by
        rw [normalizeLines.eq_def]
        split
        · rename_i heq
          cases heq
        · rename_i heq
          cases heq
          exact absurd rfl hc
        · rename_i heq
          cases heq
          rfl
      rw [hstep, if_neg (Ne.symm hc), ih hcs]

theorem decodeBytes_append {e : Encoding} {as bs : List UInt8} {cs : List Char}
    (h : e.decodeBytes as = (cs, true)) :
    (e.decodeBytes (as ++ bs)).1 = cs ++ (e.decodeBytes bs).1 := by
  induction as generalizing cs with
  | nil =>
      rw [Encoding.decodeBytes, Prod.mk.injEq] at h
      rw [← h.1, List.nil_append, List.nil_append]
  | cons a as ih =>
      rw [Encoding.decodeBytes] at h
      rw [List.cons_append, Encoding.decodeBytes]
      cases hbyte : e.byte? a with
      | none =>
          rw [hbyte] at h
          cases h
      | some c =>
          rw [hbyte] at h
          simp only [Prod.mk.injEq] at h
          simp only [← h.1, List.cons_append, ih (Prod.ext rfl h.2)]

theorem take?_header (cs : List Char) :
    Declaration.take? (header ++ cs) = some (⟨none, false⟩, cs) := rfl

theorem ofBytes_header {cs : List Char} (hchars : ∀ c ∈ cs, isCharacter c = true)
    (hreturn : '\r' ∉ cs) :
    Decoded.ofBytes (Text.Utf8.encode (String.ofList (header ++ cs)))
      = .ok ⟨⟨none, false⟩, cs, true⟩ := by
  have hbytes : Text.Utf8.encode (String.ofList (header ++ cs))
      = header.flatMap Text.Utf8.ofChar ++ cs.flatMap Text.Utf8.ofChar := by
    simp [Text.Utf8.encode]
  have hdetect : detect (header.flatMap Text.Utf8.ofChar ++ cs.flatMap Text.Utf8.ofChar)
      = (.utf8, header.flatMap Text.Utf8.ofChar ++ cs.flatMap Text.Utf8.ofChar) := rfl
  have hdecode : Encoding.utf8.decode
      (header.flatMap Text.Utf8.ofChar ++ cs.flatMap Text.Utf8.ofChar) = (header ++ cs, true) := by
    rw [← hbytes, Encoding.decode, Text.Utf8.decodePart_encode, String.toList_ofList]
  -- the declaration is looked for in the bytes as Latin-1, where the rest may be anything
  have hlatin : (Encoding.latin1.decodeBytes
      (header.flatMap Text.Utf8.ofChar ++ cs.flatMap Text.Utf8.ofChar)).1
        = header ++ (Encoding.latin1.decodeBytes (cs.flatMap Text.Utf8.ofChar)).1 :=
    decodeBytes_append rfl
  have hallowed : (header ++ cs).takeWhile isCharacter = header ++ cs := by
    have hheader : ∀ c ∈ header, isCharacter c = true := by decide
    rw [List.takeWhile_eq_self_iff]
    intro c hc
    rcases List.mem_append.mp hc with hc | hc
    · exact hheader c hc
    · exact hchars c hc
  have hlines : normalizeLines (header ++ cs) = header ++ cs := by
    refine normalizeLines_eq_self fun hmem => ?_
    rcases List.mem_append.mp hmem with hmem | hmem
    · exact absurd hmem (by decide)
    · exact hreturn hmem
  simp only [Decoded.ofBytes, hbytes, hdetect, hdecode, hlatin, take?_header, Decoded.ofChars,
    hallowed, hlines]
  simp

/-- The characters are blanks that stay what they are. -/
def Layout (cs : List Char) : Prop :=
  ∀ c ∈ cs, isSpace c = true ∧ isVerbatim c = true

instance (cs : List Char) : Decidable (Layout cs) :=
  inferInstanceAs (Decidable (∀ c ∈ cs, isSpace c = true ∧ isVerbatim c = true))

/-- **A spelled document is read as its element.** -/
theorem read_spelled {name inside before after : List Char} {inner : Content}
    (hname : isName name = true) (hinside : Spelled inside inner) (hbefore : Layout before)
    (hafter : Layout after) :
    Markup.read (Text.Utf8.encode
        (String.ofList (header ++ (before ++ (tagged name inside ++ after)))))
      = .ok ⟨(⟨String.ofList name, inner⟩ : Element).events, true⟩ := by
  have hroot : Spelled (tagged name inside ++ []) (.element (String.ofList name) inner .empty) :=
    .element hname hinside .empty
  rw [List.append_nil] at hroot
  have hverbatim : ∀ c ∈ before ++ (tagged name inside ++ after), isVerbatim c = true := by
    intro c hc
    simp only [List.mem_append] at hc
    rcases hc with hc | hc | hc
    · exact (hbefore c hc).2
    · exact hroot.verbatim c hc
    · exact (hafter c hc).2
  have hreturn : '\r' ∉ before ++ (tagged name inside ++ after) :=
    fun hmem => absurd (hverbatim '\r' hmem) (by decide)
  have hcharacter : ∀ c ∈ before ++ (tagged name inside ++ after), isCharacter c = true := by
    intro c hc
    have := hverbatim c hc
    simp only [isVerbatim, Bool.and_eq_true] at this
    exact this.1
  simp only [Markup.read, ofBytes_header hcharacter hreturn,
    readChars_spelled hname hinside (fun c hc => (hbefore c hc).1) (fun c hc => (hafter c hc).1)]
  rfl

end Tablekeep.Markup
