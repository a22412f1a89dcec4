import Tablekeep.Backup.CellText
import Tablekeep.Proofs.Backup.Restored
import Tablekeep.Proofs.Markup.Bare
import Tablekeep.Proofs.Outcome

/-!
# What an element holds

A value is written in one of three ways. Texts, and all values of columns of text, are
escaped; bytes in columns of numbers and timestamps are written as they show themselves; and
everything else is plain by nature. None of this is markup, with one reservation about bytes,
which may show brackets and ampersands.

What has been escaped is read back without the characters that are left out, even where a
document may not hold one of the others. So `heldText` says for every value what text an
element holds after the value was written into it.
-/

namespace Tablekeep.Backup

open Markup Markup.Grammar

/-! ## Cells -/

/-- The text that is escaped for a value. -/
def escapedText? : ValueKind → Value → Option String
  | .binary, _ => none
  | .boolean, _ => none
  | .text, v => some (Text.trimEnd v.display)
  | _, .text s => some (Text.trimEnd s)
  | _, _ => none

/-- It is the text that the value has anyway, without the blanks at its end. -/
theorem eq_of_escapedText? {kind : ValueKind} {v : Value} {s : String}
    (h : escapedText? kind v = some s) : s = Text.trimEnd v.display := by
  unfold escapedText? at h
  split at h
  · cases h
  · cases h
  · exact (Option.some.inj h).symm
  · exact (Option.some.inj h).symm
  · cases h

/-- The value is bytes. -/
def isBytes : Value → Bool
  | .bytes _ => true
  | .buffer _ => true
  | .window _ => true
  | _ => false

/-- The text that bytes are written as without being escaped. -/
def bytesText? : ValueKind → Value → Option String
  | .binary, _ => none
  | .boolean, _ => none
  | .text, _ => none
  | _, v => if isBytes v then some v.display else none

/-- What is neither null nor a text nor bytes has a plain text. -/
theorem plain_display {v : Value} (hnull : v ≠ .null) (htext : ∀ s, v ≠ .text s)
    (hbytes : isBytes v = false) : Plain v.display.toList := by
  cases v with
  | null => exact absurd rfl hnull
  | bool b => cases b <;> decide
  | int n => exact .decimalInt n
  | float x => exact .doubleText x
  | decimal x => exact .decimalText x
  | bytes _ => cases hbytes
  | buffer _ => cases hbytes
  | window _ => cases hbytes
  | date d => exact .dateText d
  | moment m => exact .momentText m
  | time t => exact .timeText t
  | span s => exact .spanText s
  | text s => exact absurd rfl (htext s)

/-- The kinds of columns in which a value is written as it shows itself. -/
def showsValues : ValueKind → Bool
  | .integer => true
  | .single => true
  | .decimal => true
  | .timestamp => true
  | _ => false

theorem cellText_shown {zone : Option Int} {kind : ValueKind} {v : Value}
    (hkind : showsValues kind = true) (htext : ∀ s, v ≠ .text s)
    (hmoment : ∀ m, kind = .timestamp → v ≠ .moment m) :
    cellText zone kind v = .ok v.display ∧ escapedText? kind v = none
      ∧ bytesText? kind v = if isBytes v then some v.display else none := by
  cases v with
  | text s => exact absurd rfl (htext s)
  | moment m =>
      cases kind <;> cases hkind
      · exact ⟨rfl, rfl, rfl⟩
      · exact absurd rfl (hmoment m rfl)
      · exact ⟨rfl, rfl, rfl⟩
      · exact ⟨rfl, rfl, rfl⟩
  | _ => cases kind <;> cases hkind <;> exact ⟨rfl, rfl, rfl⟩

theorem cellText_shown_text {zone : Option Int} {kind : ValueKind}
    (hkind : showsValues kind = true) (s : String) :
    cellText zone kind (.text s) = .ok (escape (Text.trimEnd s))
      ∧ escapedText? kind (.text s) = some (Text.trimEnd s) := by
  cases kind <;> cases hkind <;> exact ⟨rfl, rfl⟩

/-- A value that is written as it shows itself is bytes or plain. -/
theorem shown_cases {zone : Option Int} {kind : ValueKind} {v : Value} {text : String}
    (hkind : showsValues kind = true) (hnull : v ≠ .null) (htext : ∀ s, v ≠ .text s)
    (hmoment : ∀ m, kind = .timestamp → v ≠ .moment m) (h : cellText zone kind v = .ok text) :
    escapedText? kind v = none
      ∧ (bytesText? kind v = some text ∨ bytesText? kind v = none ∧ Plain text.toList) := by
  obtain ⟨hdisplay, hescaped, hbytes⟩ := cellText_shown hkind htext hmoment
  rw [hdisplay, Except.ok.injEq] at h
  refine ⟨hescaped, ?_⟩
  rw [hbytes, ← h]
  by_cases hb : isBytes v = true
  · rw [if_pos hb]
    exact .inl rfl
  · rw [if_neg hb]
    exact .inr ⟨rfl, plain_display hnull htext (by simpa using hb)⟩

/-- The three ways of writing a value: escaped, as bytes show themselves, or plain. -/
theorem cellText_cases {zone : Option Int} {kind : ValueKind} {v : Value} {text : String}
    (hnull : v ≠ .null) (h : cellText zone kind v = .ok text) :
    (∃ s, escapedText? kind v = some s ∧ text = escape s)
      ∨ escapedText? kind v = none
        ∧ (bytesText? kind v = some text ∨ bytesText? kind v = none ∧ Plain text.toList) := by
  have hshown : showsValues kind = true → (∀ m, kind = .timestamp → v ≠ .moment m) →
      (∃ s, escapedText? kind v = some s ∧ text = escape s) ∨ escapedText? kind v = none
        ∧ (bytesText? kind v = some text ∨ bytesText? kind v = none ∧ Plain text.toList) := by
    intro hkind hmoment
    by_cases htext : ∃ s, v = .text s
    · obtain ⟨s, rfl⟩ := htext
      obtain ⟨htext, hescaped⟩ := cellText_shown_text hkind s
      rw [htext, Except.ok.injEq] at h
      exact .inl ⟨Text.trimEnd s, hescaped, h.symm⟩
    · exact .inr (shown_cases hkind hnull (fun s hs => htext ⟨s, hs⟩) hmoment h)
  cases kind with
  | binary =>
      have htext : cellText zone .binary v = .ok blobMarker := rfl
      rw [htext, Except.ok.injEq] at h
      exact .inr ⟨rfl, .inr ⟨rfl, h ▸ (by decide)⟩⟩
  | boolean =>
      have htext : cellText zone .boolean v = .ok (truthText v.isTrue) := rfl
      have hplain : ∀ b, Plain (truthText b).toList := by decide
      rw [htext, Except.ok.injEq] at h
      exact .inr ⟨rfl, .inr ⟨rfl, h ▸ hplain _⟩⟩
  | text =>
      have htext : cellText zone .text v = .ok (escape (Text.trimEnd v.display)) := rfl
      rw [htext, Except.ok.injEq] at h
      exact .inl ⟨Text.trimEnd v.display, rfl, h.symm⟩
  | integer => exact hshown rfl fun _ hkind => by cases hkind
  | single => exact hshown rfl fun _ hkind => by cases hkind
  | decimal => exact hshown rfl fun _ hkind => by cases hkind
  | timestamp =>
      by_cases hmoment : ∃ m, v = .moment m
      · -- a moment is written as the stamp of its universal time
        obtain ⟨m, rfl⟩ := hmoment
        obtain ⟨u, -, rfl⟩ := Outcome.map_eq_ok_iff.mp h
        exact .inr ⟨rfl, .inr ⟨rfl, plain_stamp u⟩⟩
      · exact hshown rfl fun m _ hm => hmoment ⟨m, hm⟩

/-! ### Their characters -/

/-- The characters may stand as text. -/
structure CharacterData (cs : List Char) : Prop where
  characters : ∀ c ∈ cs, isCharacter c = true ∧ c ≠ '<' ∧ c ≠ '&'
  ending : ¬ [']', ']', '>'] <:+: cs

/-- The characters are content without elements, of this text. -/
def BareText (cs : List Char) (text : String) : Prop :=
  ∃ content, Bare cs content ∧ content.children = [] ∧ content.ownText = text

theorem bareText_empty : BareText [] "" :=
  ⟨.empty, .empty, rfl, rfl⟩

theorem BareText.char {c : Char} {cs : List Char} {text : String} (hc : isCharacter c = true)
    (hbracket : c ≠ '<') (hamp : c ≠ '&') (hend : ¬ [']', ']', '>'] <+: c :: cs)
    (h : BareText cs text) : BareText (c :: cs) (String.ofList [c] ++ text) := by
  obtain ⟨content, hbare, hchildren, htext⟩ := h
  exact ⟨.text (String.ofList [c]) content, .char hc hbracket hamp hend hbare, hchildren,
    by rw [Content.ownText, htext]⟩

theorem bareText_data {cs : List Char} (h : CharacterData cs) : BareText cs (String.ofList cs) := by
  induction cs with
  | nil => exact bareText_empty
  | cons c cs ih =>
      obtain ⟨hcharacters, hending⟩ := h
      obtain ⟨⟨hc, hbracket, hamp⟩, hcs⟩ := List.forall_mem_cons.mp hcharacters
      have hrest : CharacterData cs :=
        ⟨hcs, fun hin => hending (hin.trans (List.infix_cons (List.infix_refl cs)))⟩
      have := (ih hrest).char hc hbracket hamp fun hin => hending hin.isInfix
      rw [← String.ofList_append] at this
      exact this

theorem isInert_spec {c : Char} (h : isInert c = true) :
    isCharacter c = true ∧ c ≠ '<' ∧ c ≠ '&' ∧ c ≠ '>' := by
  simp only [isInert, isVerbatim, Bool.and_eq_true, bne_iff_ne] at h
  exact ⟨h.1.1.1.1, h.1.1.2, h.1.2, h.2⟩

theorem Plain.characterData {cs : List Char} (h : Plain cs) : CharacterData cs := by
  have hinert : ∀ c ∈ cs, _ := fun c hc => isInert_spec (isInert_of_isPlain (h c hc))
  refine ⟨fun c hc => ⟨(hinert c hc).1, (hinert c hc).2.1, (hinert c hc).2.2.1⟩, fun hin => ?_⟩
  exact (hinert '>' (hin.mem (by simp))).2.2.2 rfl

/-- What is written between the ampersand and the semicolon of a reference. -/
inductive ReferenceBody : List Char → Prop where
  | name {body : List Char} :
      body ∈ ["lt".toList, "gt".toList, "amp".toList, "apos".toList, "quot".toList] →
      ReferenceBody body
  | number {digits : List Char} : digits ≠ [] → (∀ d ∈ digits, d ∈ "0123456789ABCDEF".toList) →
      ReferenceBody ('#' :: 'x' :: digits)

/-- What is written for a character: itself, a reference to it, or nothing. -/
theorem escapeChar_reference (c : Char) :
    (isDropped c = false ∧ isPlain c = true ∧ escapeChar c = [c])
      ∨ (isDropped c = false ∧ ∃ body, escapeChar c = '&' :: (body ++ [';'])
          ∧ referredNumber? body = some c.toNat ∧ ReferenceBody body)
      ∨ isDropped c = true ∧ escapeChar c = [] := by
  unfold escapeChar
  by_cases hplain : isPlain c = true
  · rw [if_pos hplain]
    exact .inl ⟨not_isDropped_of_isPlain hplain, hplain, rfl⟩
  · rw [if_neg hplain]
    cases hname : namedReference? c with
    | some written =>
        obtain ⟨name, hwritten, -, hc, hkept⟩ := namedReference?_spec hname
        have hnumber : ∀ name ∈ ["lt".toList, "gt".toList, "amp".toList, "apos".toList,
            "quot".toList], referredNumber? name = (predefined? name).map Char.toNat := by decide
        refine .inr (.inl ⟨hkept, name, hwritten, ?_, .name (mem_of_predefined? hc)⟩)
        rw [hnumber name (mem_of_predefined? hc), hc, Option.map_some]
    | none =>
        by_cases hdropped : isDropped c = true
        · exact .inr (.inr ⟨hdropped, by simp [hdropped]⟩)
        · have hdigit : ∀ d < 16, Text.hexUpperDigit d ∈ "0123456789ABCDEF".toList := by decide
          refine .inr (.inl ⟨by simpa using hdropped, '#' :: 'x' :: Text.hexUpper c.toNat, ?_,
            hex?_hexUpper c.toNat, .number (hexUpper_ne_nil _) fun d hd => ?_⟩)
          · simp only [hdropped, Bool.false_eq_true, ↓reduceIte]
            rfl
          · obtain ⟨k, hk, rfl⟩ := hexUpper_digits _ d hd
            exact hdigit k hk

theorem not_mem_escaped (cs : List Char) : '>' ∉ cs.flatMap escapeChar := by
  intro hmem
  obtain ⟨c, -, hc⟩ := List.mem_flatMap.mp hmem
  rcases escapeChar_reference c with
    ⟨-, hplain, hescape⟩ | ⟨-, body, hescape, hbody, -⟩ | ⟨-, hescape⟩
  · rw [hescape, List.mem_singleton] at hc
    exact (isInert_spec (isInert_of_isPlain hplain)).2.2.2 hc.symm
  · have hnot := not_mem_of_referredNumber? hbody '>' (by simp)
    rw [hescape] at hc
    simp [hnot] at hc
  · rw [hescape] at hc
    cases hc

/-- An escaped text has the characters of the text that are not left out. -/
theorem bareText_escaped (cs : List Char) :
    BareText (cs.flatMap escapeChar) (String.ofList (cs.filter fun c => !isDropped c)) := by
  induction cs with
  | nil => exact bareText_empty
  | cons c cs ih =>
      rw [List.flatMap_cons]
      rcases escapeChar_reference c with ⟨hkept, hplain, hescape⟩ |
        ⟨hkept, body, hescape, hbody, -⟩ | ⟨hdropped, hescape⟩
      · obtain ⟨hc, hbracket, hamp, -⟩ := isInert_spec (isInert_of_isPlain hplain)
        have hend : ¬ [']', ']', '>'] <+: c :: cs.flatMap escapeChar := by
          intro hin
          have := not_mem_escaped (c :: cs)
          rw [List.flatMap_cons, hescape] at this
          exact this (hin.mem (by simp))
        have hchar := ih.char hc hbracket hamp hend
        rw [← String.ofList_append] at hchar
        rw [hescape, List.filter_cons_of_pos (by simp [hkept])]
        exact hchar
      · obtain ⟨content, hbare, hchildren, htext⟩ := ih
        rw [hescape, List.filter_cons_of_pos (by simp [hkept])]
        refine ⟨.text (String.ofList [c]) content, ?_, hchildren, ?_⟩
        · have := Bare.reference hbody hbare
          simpa using this
        · rw [Content.ownText, htext, ← String.ofList_append]
          rfl
      · rw [hescape, List.filter_cons_of_neg (by simp [hdropped]), List.nil_append]
        exact ih

/-- What an element holds after a value has been written into it as `text`. -/
def heldText (kind : ValueKind) (v : Value) (text : String) : String :=
  ((escapedText? kind v).map kept).getD text

/-- **The text of a cell is no markup.** -/
theorem bareText_cellText {zone : Option Int} {kind : ValueKind} {v : Value} {text : String}
    (hnull : v ≠ .null) (h : cellText zone kind v = .ok text)
    (hbytes : ∀ s, bytesText? kind v = some s → CharacterData s.toList) :
    BareText text.toList (heldText kind v text) := by
  have hdata : CharacterData text.toList → BareText text.toList text := by
    intro hdata
    have := bareText_data hdata
    rw [String.ofList_toList] at this
    exact this
  rcases cellText_cases hnull h with ⟨s, hescaped, rfl⟩ | ⟨hescaped, hshown | ⟨-, hplain⟩⟩
  · rw [heldText, hescaped, escape, String.toList_ofList]
    exact bareText_escaped s.toList
  · rw [heldText, hescaped]
    exact hdata (hbytes text hshown)
  · rw [heldText, hescaped]
    exact hdata hplain.characterData

end Tablekeep.Backup
