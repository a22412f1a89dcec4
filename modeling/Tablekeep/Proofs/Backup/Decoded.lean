import Tablekeep.Proofs.Backup.Held

/-!
# Escaping and references

Escaping leaves characters of ASCII that are no markup, but for the ampersands, and each of these
begins a reference that ends at the next semicolon. So the references can be found again without
knowing where the characters of the text began, even if the text had references of its own:
`decoded` goes through the characters once and replaces them. What it gives is the text without the
characters that are dropped, and nothing else is lost.
-/

namespace Tablekeep.Backup

open Markup Markup.Grammar

/-! ## References -/

/-- The character that is meant between an ampersand and a semicolon, be it one that a document may
hold or not. -/
def referred? (body : List Char) : Option Char :=
  (referredNumber? body).bind fun n => if h : n.isValidChar then some (Char.ofNatAux n h) else none

/-- The characters with every reference replaced by the character it refers to, in one pass. `body`
is what there is already of a reference that has begun, last character first; what turns out to be
no reference stays as it is. -/
def decodedFrom : Option (List Char) → List Char → List Char
  | none, [] => []
  | none, c :: cs => if c = '&' then decodedFrom (some []) cs else c :: decodedFrom none cs
  | some body, [] => '&' :: body.reverse
  | some body, c :: cs =>
    if c = ';' then
      match referred? body.reverse with
      | some d => d :: decodedFrom none cs
      | none => '&' :: (body.reverse ++ ';' :: decodedFrom none cs)
    else decodedFrom (some (c :: body)) cs

/-- The text that the characters stand for. -/
def decoded (cs : List Char) : List Char :=
  decodedFrom none cs

theorem referred?_eq {body : List Char} {c : Char} (h : referredNumber? body = some c.toNat) :
    referred? body = some c := by
  have hvalid : c.toNat.isValidChar := c.valid
  rw [referred?, h, Option.bind_some, dif_pos hvalid, Text.Utf8.ofNatAux_toNat]

/-- A reference ends at the first semicolon. -/
theorem decodedFrom_body {body inside rest : List Char} {c : Char} (hend : ';' ∉ inside)
    (h : referred? (body.reverse ++ inside) = some c) :
    decodedFrom (some body) (inside ++ ';' :: rest) = c :: decodedFrom none rest := by
  induction inside generalizing body with
  | nil =>
      rw [List.append_nil] at h
      simp only [List.nil_append, decodedFrom, h, ↓reduceIte]
  | cons d inside ih =>
      rw [List.mem_cons, not_or] at hend
      obtain ⟨hd, hinside⟩ := hend
      rw [List.cons_append, decodedFrom, if_neg fun heq => hd heq.symm]
      refine ih hinside ?_
      rw [List.reverse_cons, List.append_assoc]
      exact h

/-! ## What is written -/

/-- The character is of ASCII, no control character, and no markup but for the ampersand. -/
structure Unmarked (c : Char) : Prop where
  ge : 0x20 ≤ c.toNat
  lt : c.toNat < 0x7F
  special : c ∉ ['<', '>', '"', '\'', '\\']

instance (c : Char) : Decidable (Unmarked c) :=
  decidable_of_iff (0x20 ≤ c.toNat ∧ c.toNat < 0x7F ∧ c ∉ ['<', '>', '"', '\'', '\\'])
    ⟨fun h => ⟨h.1, h.2.1, h.2.2⟩, fun h => ⟨h.1, h.2, h.3⟩⟩

/-- A character that is written as it is, is no ampersand. -/
theorem unmarked_of_isPlain {c : Char} (h : isPlain c = true) : Unmarked c ∧ c ≠ '&' := by
  have hpunctuation : ∀ p ∈ plainPunctuation, p.toNat < 0x80 := by decide
  have hle (last : Char) (hlast : last.toNat < 0x80) (hc : c ≤ last) : c.toNat < 0x80 :=
    Nat.lt_of_le_of_lt (UInt32.le_iff_toNat_le.mp hc) hlast
  have hascii : c.toNat < 0x80 := by
    simp only [isPlain, Text.isDigit, Bool.or_eq_true, Bool.and_eq_true, decide_eq_true_eq] at h
    rcases h with ((h | h) | h) | h
    · exact hle 'z' (by decide) h.2
    · exact hle 'Z' (by decide) h.2
    · exact hle '9' (by decide) h.2
    · exact hpunctuation c (by simpa using h)
  have htable : ∀ n < 0x80, isPlain (Char.ofNat n) = true →
      Unmarked (Char.ofNat n) ∧ Char.ofNat n ≠ '&' := by decide +kernel
  have hc := htable c.toNat hascii
  rw [Char.ofNat_toNat] at hc
  exact hc h

/-- So it is with the characters of a reference, after its beginning and before its end. -/
theorem ReferenceBody.unmarked {body : List Char} (h : ReferenceBody body) :
    ∀ c ∈ body, Unmarked c ∧ c ≠ '&' ∧ c ≠ ';' := by
  cases h with
  | name hname =>
      revert body
      decide
  | number _ hdigits =>
      have hdigit : ∀ d ∈ "0123456789ABCDEF".toList, Unmarked d ∧ d ≠ '&' ∧ d ≠ ';' := by decide
      intro c hc
      rcases List.mem_cons.mp hc with rfl | hc
      · decide
      · rcases List.mem_cons.mp hc with rfl | hc
        · decide
        · exact hdigit c (hdigits c hc)

/-- A reference follows, whose ampersand has been read. -/
def ReferenceAhead (after : List Char) : Prop :=
  ∃ body rest, after = body ++ ';' :: rest ∧ ';' ∉ body ∧ ReferenceBody body

theorem unmarked_escapeChar (c : Char) :
    (∀ d ∈ escapeChar c, Unmarked d) ∧ Followed '&' ReferenceAhead (escapeChar c) := by
  rcases escapeChar_reference c with
    ⟨-, hplain, hescape⟩ | ⟨-, body, hescape, -, hbody⟩ | ⟨-, hescape⟩
  · obtain ⟨hc, hamp⟩ := unmarked_of_isPlain hplain
    rw [hescape]
    exact ⟨by simpa using hc, .of_not_mem (by simpa using hamp.symm)⟩
  · have hinside := hbody.unmarked
    have hend : ';' ∉ body := fun hmem => (hinside _ hmem).2.2 rfl
    rw [hescape]
    refine ⟨?_, followed_cons_iff.mpr ⟨fun _ => ⟨body, [], rfl, hend, hbody⟩, .of_not_mem ?_⟩⟩
    · simp only [List.forall_mem_cons, List.forall_mem_append]
      exact ⟨by decide, fun d hd => (hinside d hd).1, by decide, by simp⟩
    · simp only [List.mem_append, List.mem_singleton, not_or]
      exact ⟨fun hmem => (hinside _ hmem).2.1 rfl, by decide⟩
  · rw [hescape]
    exact ⟨by simp, .of_not_mem (by simp)⟩

/-- All that is written is of this sort, and a reference follows every ampersand. -/
theorem unmarked_escape (s : String) :
    (∀ c ∈ (escape s).toList, Unmarked c) ∧ Followed '&' ReferenceAhead (escape s).toList := by
  have hmore : ∀ as bs, ReferenceAhead as → ReferenceAhead (as ++ bs) := by
    rintro as bs ⟨body, rest, rfl, hbody⟩
    exact ⟨body, rest ++ bs, by simp, hbody⟩
  rw [escape, String.toList_ofList]
  induction s.toList with
  | nil => exact ⟨by simp, .of_not_mem (by simp)⟩
  | cons c cs ih =>
      obtain ⟨hc, hreference⟩ := unmarked_escapeChar c
      rw [List.flatMap_cons]
      exact ⟨List.forall_mem_append.mpr ⟨hc, ih.1⟩, hreference.append hmore ih.2⟩

/-! ## What is read -/

/-- The references that were written give back the characters that were not dropped. -/
theorem decoded_flatMap (cs : List Char) :
    decoded (cs.flatMap escapeChar) = cs.filter fun c => !isDropped c := by
  induction cs with
  | nil => rfl
  | cons c cs ih =>
      rw [decoded] at ih ⊢
      rw [List.flatMap_cons]
      rcases escapeChar_reference c with
        ⟨hkept, hplain, hescape⟩ | ⟨hkept, body, hescape, hnumber, hbody⟩ | ⟨hdropped, hescape⟩
      · rw [hescape, List.filter_cons_of_pos (by simp [hkept]), List.singleton_append, decodedFrom,
          if_neg (unmarked_of_isPlain hplain).2, ih]
      · have hend : ';' ∉ body := fun hmem => (hbody.unmarked _ hmem).2.2 rfl
        have hread : decodedFrom (some []) (body ++ ';' :: cs.flatMap escapeChar)
            = c :: decodedFrom none (cs.flatMap escapeChar) :=
          decodedFrom_body hend (referred?_eq hnumber)
        rw [hescape, List.filter_cons_of_pos (by simp [hkept]), List.cons_append, List.append_assoc,
          List.singleton_append, decodedFrom, if_pos rfl, hread, ih]
      · rw [hescape, List.filter_cons_of_neg (by simp [hdropped]), List.nil_append, ih]

/--
**Escaped text is decoded to what is kept of it.**

What is written for a text is ASCII without control characters, brackets, quotes or backslashes,
and every ampersand in it begins one of five names or a number that ends at the next semicolon.
Replacing these references in one pass gives the text without the characters that are dropped. So
two texts are written alike exactly if they differ in dropped characters only.
-/
theorem decoded_escape (s t : String) :
    (∀ c ∈ (escape s).toList,
        0x20 ≤ c.toNat ∧ c.toNat < 0x7F ∧ c ∉ ['<', '>', '"', '\'', '\\'])
      ∧ (∀ before after, (escape s).toList = before ++ '&' :: after →
        ∃ body rest, after = body ++ ';' :: rest ∧ ';' ∉ body ∧ ReferenceBody body)
      ∧ decoded (escape s).toList = s.toList.filter (fun c => c.toNat ∉ droppedCodePoints)
      ∧ (escape s = escape t ↔ s.toList.filter (fun c => c.toNat ∉ droppedCodePoints)
        = t.toList.filter fun c => c.toNat ∉ droppedCodePoints) := by
  have hfilter : ∀ s : String, s.toList.filter (fun c => c.toNat ∉ droppedCodePoints)
      = (kept s).toList := by
    intro s
    rw [kept, String.toList_ofList]
    refine List.filter_congr fun c _ => ?_
    simp [isDropped]
  have hdecoded : ∀ s, decoded (escape s).toList = (kept s).toList := by
    intro s
    rw [escape, String.toList_ofList, decoded_flatMap, kept, String.toList_ofList]
  obtain ⟨hunmarked, hreferences⟩ := unmarked_escape s
  rw [hfilter, hfilter]
  refine ⟨fun c hc => ?_, hreferences, hdecoded s, ?_⟩
  · exact ⟨(hunmarked c hc).ge, (hunmarked c hc).lt, (hunmarked c hc).special⟩
  · constructor
    · intro h
      rw [← hdecoded, ← hdecoded, h]
    · intro h
      rw [← escape_kept s, ← escape_kept t, String.toList_inj.mp h]

end Tablekeep.Backup
