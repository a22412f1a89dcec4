import Tablekeep.Backup.CellText
import Tablekeep.Backup.Literal
import Tablekeep.Proofs.Backup.Escaped
import Tablekeep.Proofs.Calendar.Stamps

/-!
# What becomes of a value

A value is written into a document and later turned into a literal. `restoredLiteral` says
what that literal is, without a document in between: a text is trimmed at its end and loses
the characters that are dropped, a moment loses the parts of its second and is shown on
the clock of the restoration, and the rest stays.

Not every value comes through. A document cannot hold all characters, and a stamp is only
read back if its year has four digits. `Restorable` is the condition on a value.
-/

namespace Tablekeep.Backup

open Markup Calendar

/-! ## Stamps -/

/-- The stamp of the moment with so many ticks. -/
def stampAt (ticks : Int) : String :=
  (Date.ofNumber (ticks.toNat / dayMicros + 1)).toStamp ++ "T"
    ++ (TimeOfDay.ofMicros (ticks.toNat % dayMicros)).toStamp

theorem toStamp_of_ofTicks {offset : Option Int} {ticks : Int} {m : Moment}
    (h : Moment.ofTicks offset ticks = .ok m) : m.toStamp = stampAt ticks := by
  unfold Moment.ofTicks at h
  split at h
  · cases h
  · cases h
    rfl

/-- The ticks that the clock `zone'` shows at the whole second of a moment, which is on the clock
`zone` if it does not say otherwise. -/
def restoredTicks (zone zone' : Option Int) (m : Moment) : Int :=
  let universal := m.ticks - (m.offset.or zone).getD 0
  universal - universal % secondMicros + zone'.getD 0

theorem ticks_toUniversal {zone : Option Int} {m u : Moment} (h : m.toUniversal zone = .ok u) :
    u.ticks = m.ticks - (m.offset.or zone).getD 0 := by
  unfold Moment.toUniversal at h
  split at h
  · rename_i hoffset
    rw [hoffset]
    exact (Moment.ofTicks_spec h).2.2.2
  · rename_i hoffset
    rw [hoffset]
    exact (Moment.ofTicks_spec h).2.2.2
  · rename_i hoffset
    rw [hoffset]
    split at h
    · cases h
    · rw [(Moment.ofTicks_spec h).2.2.2]
      simp

theorem micro_eq_mod {m : Moment} (h : m.time.Valid) :
    (m.time.micro : Int) = m.ticks % secondMicros := by
  have := h.micro
  rw [secondMicros_eq] at this
  simp only [Moment.ticks, TimeOfDay.micros, dayMicros_eq, secondMicros_eq]
  omega

/-! ## Values and their literals -/

/-- What is kept of the text can stand in a document. -/
def Documentable (s : String) : Prop :=
  ∀ c ∈ s.toList, isDropped c = false → isCharacter c = true

instance (s : String) : Decidable (Documentable s) :=
  inferInstanceAs (Decidable (∀ c ∈ s.toList, isDropped c = false → isCharacter c = true))

/-- The value is a number, or one of the truth values, which count as numbers. -/
def isNumber : Value → Bool
  | .bool _ | .int _ | .float _ | .decimal _ => true
  | _ => false

/-- The kinds whose values are written as they are, and restored as they are. -/
def isNumeric : ValueKind → Bool
  | .integer | .single | .decimal => true
  | _ => false

/-- The value can be written on the clock `zone` and restored on the clock `zone'`. -/
def Restorable (zone zone' : Option Int) (kind : ValueKind) (v : Value) : Prop :=
  match kind with
  | .boolean => True
  | .text => Documentable (Text.trimEnd v.display)
  | .timestamp =>
    ∃ m u w, v = .moment m ∧ m.toUniversal zone = .ok u ∧ 1000 ≤ u.date.year
      ∧ u.toZone zone' = .ok w
  | .integer | .decimal | .single =>
    isNumber v = true ∨ ∃ s, v = .text s ∧ Documentable (Text.trimEnd s)
  | .binary => False

/-- The literal of what is kept of a text: null if nothing was kept and the column allows it. -/
def keptLiteral (c : Column) (literal : String → String) (s : String) : String :=
  let text := kept (Text.trimEnd s)
  if text.isEmpty && c.isNullable then "null" else literal text

/-- The literal that a value is restored as. -/
def restoredLiteral (zone zone' : Option Int) (c : Column) (v : Value) : String :=
  match c.kind, v with
  | .boolean, v => if v.isTrue then "1" else "0"
  | .timestamp, .moment m => inApostrophes (stampAt (restoredTicks zone zone' m))
  | .text, v => keptLiteral c (fun s => inApostrophes (doubleQuotes s)) v.display
  | _, .text s => keptLiteral c id s
  | _, v => v.display

/-! ## From values to literals -/

section Kinds

variable {zone zone' : Option Int} {c : Column} {v : Value}

/-! ### Literals -/

theorem literal_number {text : String} (hkind : isNumeric c.kind = true) (hne : text.toList ≠ []) :
    literal zone' c (some text) = .ok text := by
  have hfull : text.isEmpty = false := by
    rw [← Bool.not_eq_true, String.isEmpty_iff]
    rintro rfl
    exact hne rfl
  cases hc : c.kind <;> rw [hc] at hkind <;> cases hkind <;>
    simp only [literal, Option.getD_some, Column.isBlob, hc, hfull, Bool.false_and,
      Bool.false_eq_true, beq_iff_eq, reduceCtorEq, ↓reduceIte]

theorem literal_truth (hblob : c.isBlob = false) (hkind : c.kind = .boolean) (b : Bool) :
    literal zone' c (some (truthText b)) = .ok (if b then "1" else "0") := by
  have hfull : (truthText b).isEmpty = false := by cases b <;> decide
  have htrue : (truthText b = "true") = (b = true) := by cases b <;> decide
  simp only [literal, Option.getD_some, hblob, hfull, hkind, htrue, Bool.false_and,
    Bool.false_eq_true, ↓reduceIte]

/-- Line feeds are dropped from a document, so there are none to be dropped from the literal. -/
theorem dropLineFeeds_kept (s : String) :
    dropLineFeeds (doubleQuotes (kept s)) = doubleQuotes (kept s) := by
  have hdropped : isDropped '\n' = true := by decide
  have hkept : '\n' ∉ (kept s).toList := by
    simp [kept, hdropped]
  -- doubling quotes brings in quotes and nothing else
  have hdoubled : ∀ c ∈ (doubleQuotes (kept s)).toList, decide (c ≠ '\n') = true := by
    intro c hc
    simp only [doubleQuotes, String.toList_ofList, List.mem_flatMap] at hc
    obtain ⟨d, hd, hc⟩ := hc
    have : c = d := by
      unfold doubled at hc
      split at hc <;> simpa using hc
    simpa [this] using ne_of_mem_of_not_mem hd hkept
  rw [dropLineFeeds, List.filter_eq_self.mpr hdoubled, String.ofList_toList]

theorem literal_kept_text (hblob : c.isBlob = false) (hkind : c.kind = .text) (s : String) :
    literal zone' c (some (kept (Text.trimEnd s)))
      = .ok (keptLiteral c (fun s => inApostrophes (doubleQuotes s)) s) := by
  simp only [literal, Option.getD_some, hblob, hkind, Bool.false_eq_true, ↓reduceIte, keptLiteral,
    dropLineFeeds_kept]
  split <;> rfl

theorem literal_kept_number (hkind : isNumeric c.kind = true) (s : String) :
    literal zone' c (some (kept (Text.trimEnd s))) = .ok (keptLiteral c id s) := by
  cases hc : c.kind <;> rw [hc] at hkind <;> cases hkind <;>
    simp only [literal, Option.getD_some, Column.isBlob, hc, keptLiteral, id, beq_iff_eq,
      reduceCtorEq, ↓reduceIte] <;> split <;> rfl

/-! ### Stamps -/

theorem plain_stamp (u : Moment) : Plain (u.toStamp ++ "Z").toList := by
  simp only [Moment.toStamp, Date.toStamp, TimeOfDay.toStamp, String.toList_append]
  refine Plain.append (Plain.append (Plain.append (Plain.append ?_ ?_) (by decide)) ?_) (by decide)
  · exact (((Plain.decimal _).append (by decide)).append (Plain.decimalWide _ _)).append
      (by decide)
  · exact Plain.decimalWide _ _
  · exact ((((Plain.decimalWide _ _).append (by decide)).append (Plain.decimalWide _ _)).append
      (by decide)).append (Plain.decimalWide _ _)

/-- Blanks are trimmed from both ends of a text, and from none that has other characters there. -/
theorem trim_ends {cs : List Char} {first last : Char} (hfirst : Text.isBlank first = false)
    (hlast : Text.isBlank last = false) :
    Text.trim (String.ofList (first :: cs ++ [last])) = String.ofList (first :: cs ++ [last]) := by
  have hfront : Text.dropBlanks (first :: cs ++ [last]) = first :: cs ++ [last] := by
    rw [Text.dropBlanks, List.cons_append, List.dropWhile_cons, hfirst]
    rfl
  rw [Text.trim, String.toList_ofList, hfront, Text.dropBlanksEnd, List.reverse_append,
    List.reverse_singleton, List.singleton_append, List.dropWhile_cons, hlast]
  simp

theorem withNumericOffset_stamp (cs : List Char) :
    (withNumericOffset (String.ofList (cs ++ ['Z']))).toList = cs ++ zeroOffset := by
  have hends : Text.endsWith (String.ofList (cs ++ ['Z'])) "Z" = true := by
    simp only [Text.endsWith, Text.isStart, String.toList_ofList, List.reverse_append,
      List.isPrefixOf_iff_prefix]
    exact List.prefix_append _ _
  rw [withNumericOffset, if_pos hends, String.toList_append, String.toList_ofList,
    String.toList_ofList, List.dropLast_concat]
  rfl

/-- A stamp in universal time is read as the whole second of its moment. -/
theorem timestamp_stamp {u : Moment} (hoffset : u.offset = some 0) (hd : u.date.isValid = true)
    (hyear : 1000 ≤ u.date.year) (ht : u.time.Valid) :
    timestamp (u.toStamp ++ "Z") = .ok u.toSecond := by
  have hstamp := toList_toStamp hd hyear ht
  have hlast := (Date.isValid_iff.mp hd).2.1
  have hdigit : Text.isBlank (u.date.year / 1000).digitChar = false :=
    (digitChar_spec _ (by omega)).2.2.2.2
  have htext : u.toStamp ++ "Z" = String.ofList (u.toStamp.toList ++ ['Z']) := by
    rw [String.ofList_append, String.ofList_toList]
  obtain ⟨cs, hcs⟩ : ∃ cs, u.toStamp.toList = (u.date.year / 1000).digitChar :: cs :=
    ⟨_, by rw [hstamp]; rfl⟩
  have htrim : Text.trim (u.toStamp ++ "Z") = u.toStamp ++ "Z" := by
    rw [htext, hcs]
    exact trim_ends hdigit (by decide)
  have hread : Moment.ofText (withNumericOffset (u.toStamp ++ "Z"))
      = .ok ⟨u.date, ⟨u.time.hour, u.time.minute, u.time.second, 0⟩, some 0⟩ := by
    refine ofText_stamp hd ht ?_
    rw [htext, withNumericOffset_stamp, hstamp, List.append_assoc, List.cons_append]
  rw [timestamp, htrim, hread, Except.map, Moment.toSecond, hoffset]
  rfl

/-- What is restored of a text that is read as a moment. -/
theorem literal_timestamp {text : String} {m v : Moment} (hkind : c.kind = .timestamp)
    (hne : text.toList ≠ []) (hread : timestamp text = .ok m) (hzone : m.toZone zone' = .ok v) :
    literal zone' c (some text) = .ok (inApostrophes v.toStamp) := by
  have hblob : c.isBlob = false := by simp [Column.isBlob, hkind]
  have hfull : text.isEmpty = false := by
    rw [← Bool.not_eq_true, String.isEmpty_iff]
    rintro rfl
    exact hne rfl
  simp only [literal, Option.getD_some, hblob, hfull, hkind, Bool.false_and, Bool.false_eq_true,
    ↓reduceIte, hread, hzone]

theorem literal_stamp {u v : Moment} (hkind : c.kind = .timestamp)
    (hread : timestamp (u.toStamp ++ "Z") = .ok u.toSecond)
    (hzone : u.toSecond.toZone zone' = .ok v) :
    literal zone' c (some (u.toStamp ++ "Z")) = .ok (inApostrophes v.toStamp) :=
  literal_timestamp hkind (by simp) hread hzone

/-! ### Values -/

theorem isNumber_display (h : isNumber v = true) :
    Plain v.display.toList ∧ v.display.toList ≠ [] := by
  cases v with
  | bool b => cases b <;> exact ⟨by decide, by decide⟩
  | int n => exact ⟨.decimalInt n, decimalInt_ne_nil n⟩
  | float x => exact ⟨.doubleText x, doubleText_ne_nil x⟩
  | decimal x => exact ⟨.decimalText x, decimalText_ne_nil x⟩
  | _ => cases h

/-- What there is between a value and its literal: what is written, and what is read of it. -/
structure Passage (zone zone' : Option Int) (c : Column) (v : Value) (raw text : String)
    (content : Content) : Prop where
  written : cellText zone c.kind v = .ok raw
  spelled : SpelledText raw.toList text content
  restored : literal zone' c (some text) = .ok (restoredLiteral zone zone' c v)

theorem cellText_number {kind : ValueKind} (hkind : isNumeric kind = true)
    (hnumber : isNumber v = true) : cellText zone kind v = .ok v.display := by
  cases kind <;> cases hkind <;> cases v <;> cases hnumber <;> rfl

theorem cellText_number_text {kind : ValueKind} (hkind : isNumeric kind = true) (s : String) :
    cellText zone kind (.text s) = .ok (escape (Text.trimEnd s)) := by
  cases kind <;> cases hkind <;> rfl

theorem restoredLiteral_number (hkind : isNumeric c.kind = true) (hnumber : isNumber v = true) :
    restoredLiteral zone zone' c v = v.display := by
  unfold restoredLiteral
  generalize c.kind = kind at hkind ⊢
  cases kind <;> cases hkind <;> cases v <;> cases hnumber <;> rfl

theorem restoredLiteral_number_text (hkind : isNumeric c.kind = true) (s : String) :
    restoredLiteral zone zone' c (.text s) = keptLiteral c id s := by
  unfold restoredLiteral
  generalize c.kind = kind at hkind ⊢
  cases kind <;> cases hkind <;> rfl

/-- Numbers are plain text, and strings that stand for numbers are escaped like any other. -/
theorem exists_passage_number (hkind : isNumeric c.kind = true)
    (h : isNumber v = true ∨ ∃ s, v = .text s ∧ Documentable (Text.trimEnd s)) :
    ∃ raw text content, Passage zone zone' c v raw text content := by
  rcases h with hnumber | ⟨s, rfl, hs⟩
  · obtain ⟨hplain, hne⟩ := isNumber_display hnumber
    obtain ⟨content, hcontent⟩ := exists_spelledText_plain hplain
    refine ⟨v.display, v.display, content, cellText_number hkind hnumber, hcontent, ?_⟩
    rw [literal_number hkind hne, restoredLiteral_number hkind hnumber]
  · obtain ⟨content, hcontent⟩ := exists_spelledText_escape hs
    refine ⟨_, _, content, cellText_number_text hkind s, hcontent, ?_⟩
    rw [literal_kept_number hkind, restoredLiteral_number_text hkind]

/-- **A value that is restorable comes through as its literal.** -/
theorem exists_passage (hblob : c.isBlob = false) (hzone : (zone'.getD 0).natAbs < dayMicros)
    (h : Restorable zone zone' c.kind v) :
    ∃ raw text content, Passage zone zone' c v raw text content := by
  cases hkind : c.kind with
  | boolean =>
      have hplain : Plain (truthText v.isTrue).toList := by cases v.isTrue <;> decide
      obtain ⟨content, hcontent⟩ := exists_spelledText_plain hplain
      refine ⟨_, _, content, by rw [hkind]; rfl, hcontent, ?_⟩
      rw [literal_truth hblob hkind]
      unfold restoredLiteral
      simp only [hkind]
  | text =>
      rw [hkind] at h
      obtain ⟨content, hcontent⟩ := exists_spelledText_escape h
      refine ⟨_, _, content, by rw [hkind]; rfl, hcontent, ?_⟩
      rw [literal_kept_text hblob hkind]
      unfold restoredLiteral
      simp only [hkind]
  | timestamp =>
      rw [hkind] at h
      obtain ⟨m, u, w, rfl, hu, hyear, hw⟩ := h
      obtain ⟨hoffset, hdate, htime, hticks⟩ := Moment.toUniversal_spec hu
      -- what is read is the whole second, so the clock shows that and not `w`
      obtain ⟨shown, hshown, hof⟩ :=
        Moment.exists_toZone_toSecond hoffset htime hticks hyear hzone hw
      obtain ⟨content, hcontent⟩ := exists_spelledText_plain (plain_stamp u)
      refine ⟨_, _, content, ?_, hcontent, ?_⟩
      · rw [hkind, cellText, hu]
        rfl
      · rw [literal_stamp hkind (timestamp_stamp hoffset hdate hyear htime) hshown,
          toStamp_of_ofTicks hof]
        unfold restoredLiteral
        simp only [hkind, restoredTicks, ← ticks_toUniversal hu, micro_eq_mod htime]
  | integer =>
      rw [hkind] at h
      exact exists_passage_number (by rw [hkind]; rfl) h
  | single =>
      rw [hkind] at h
      exact exists_passage_number (by rw [hkind]; rfl) h
  | decimal =>
      rw [hkind] at h
      exact exists_passage_number (by rw [hkind]; rfl) h
  | binary =>
      rw [Column.isBlob, hkind] at hblob
      cases hblob

end Kinds

end Tablekeep.Backup
