import Tablekeep.Proofs.Digest.Regrouped
import Tablekeep.Proofs.Server.Survey

/-!
# Content that has one digest

Whoever fills a table may say the same in several ways. A truth is a flag, a bit, a number or a
word; a timestamp has a time of day that a digest is not to depend on; a text may have blanks at its
end; and a row may leave a null out or spell the name of a column in another letter case. Rows that
differ in such ways only are `Restated`, and all of them have the same canonical texts.

The digest of a table is taken of these texts and of nothing else, and the digests of a database are
those of the rows that its tables gave. That there always is one rests on every value having a text;
an integer is taken to have one however long it is.
-/

namespace Tablekeep.Digest

open Backup Calendar

/-! ## Values that say the same -/

/-- How a truth may be told. -/
inductive Says : Bool → Value → Prop
  | flag (b : Bool) : Says b (.bool b)
  | zero : Says false (.int 0)
  | one : Says true (.int 1)
  /-- Packed bits are true if one of them is set. -/
  | packed {b : Bool} {v : Value} (bs : List UInt8) : v = .bytes bs ∨ v = .buffer bs →
      (b = true ↔ ∃ x ∈ bs, x ≠ 0) → Says b v
  /-- A word counts in any letter case, whatever blanks are around it. -/
  | word {b : Bool} {s : String} :
      Text.lower (Text.trim s) ∈ (if b then ["1", "true"] else ["0", "false"]) → Says b (.text s)

/-- A day, or some time of it on some clock. -/
inductive OnDay (d : Date) : Value → Prop
  | day : OnDay d (.date d)
  | moment (clock : TimeOfDay) (offset : Option Int) : OnDay d (.moment ⟨d, clock, offset⟩)

/-- Two values say the same in a column of the kind. -/
inductive SameValue : ValueKind → Value → Value → Prop
  | refl (kind : ValueKind) (v : Value) : SameValue kind v v
  | truth {b : Bool} {v w : Value} : Says b v → Says b w → SameValue .boolean v w
  | day {d : Date} {v w : Value} : OnDay d v → OnDay d w → SameValue .timestamp v w
  | blanks (kind : ValueKind) (s : String) {x y : String} : Text.Blank x → Text.Blank y →
      SameValue kind (.text (s ++ x)) (.text (s ++ y))

theorem isTrue_text (s : String) : (Value.text s).isTrue
    = (Text.lower (Text.trim s) == "1" || Text.lower (Text.trim s) == "true") :=
  rfl

theorem canonicalText_boolean (v : Value) :
    canonicalText .boolean v = escape (truthText v.isTrue) :=
  rfl

theorem canonicalText_text {kind : ValueKind} (h : kind ≠ .boolean) (s : String) :
    canonicalText kind (.text s) = escape (Text.trimEnd s) := by
  cases kind with
  | boolean => exact absurd rfl h
  | _ => rfl

theorem Says.isTrue_eq {b : Bool} {v : Value} (h : Says b v) : v.isTrue = b := by
  cases h with
  | flag b => rfl
  | zero => decide
  | one => decide
  | packed bs hv hb =>
      have hset : Bytes.isSet bs = b := by
        rw [Bool.eq_iff_iff, hb, Bytes.isSet, List.any_eq_true]
        simp only [bne_iff_ne]
      obtain rfl | rfl := hv <;> exact hset
  | @word b s hs =>
      rw [isTrue_text]
      cases b with
      | true =>
          obtain h | h : _ = "1" ∨ _ = "true" := by simpa using hs
          · rw [h]
            decide
          · rw [h]
            decide
      | false =>
          obtain h | h : _ = "0" ∨ _ = "false" := by simpa using hs
          · rw [h]
            decide
          · rw [h]
            decide

theorem Says.ne_null {b : Bool} {v : Value} (h : Says b v) : v ≠ .null := by
  cases h with
  | packed bs hv => obtain rfl | rfl := hv <;> simp
  | _ => simp

theorem OnDay.ne_null {d : Date} {v : Value} (h : OnDay d v) : v ≠ .null := by
  cases h <;> simp

theorem OnDay.canonicalText_eq {d : Date} {v : Value} (h : OnDay d v) :
    canonicalText .timestamp v = escape d.toStamp := by
  cases h <;> rfl

theorem SameValue.canonicalText_eq {kind : ValueKind} {v w : Value} (h : SameValue kind v w) :
    canonicalText kind v = canonicalText kind w := by
  cases h with
  | refl => rfl
  | truth hv hw => rw [canonicalText_boolean, canonicalText_boolean, hv.isTrue_eq, hw.isTrue_eq]
  | day hv hw => rw [hv.canonicalText_eq, hw.canonicalText_eq]
  | blanks _ s hx hy =>
      by_cases h : kind = .boolean
      · subst h
        rw [canonicalText_boolean, canonicalText_boolean, isTrue_text, isTrue_text,
          Text.trim_append_blank hx, Text.trim_append_blank hy]
      · rw [canonicalText_text h, canonicalText_text h, Text.trimEnd_append_blank hx,
          Text.trimEnd_append_blank hy]

theorem SameValue.null_iff {kind : ValueKind} {v w : Value} (h : SameValue kind v w) :
    v = .null ↔ w = .null := by
  cases h with
  | refl => rfl
  | truth hv hw => exact iff_of_false hv.ne_null hw.ne_null
  | day hv hw => exact iff_of_false hv.ne_null hw.ne_null
  | blanks => simp

/-! ## Rows that say the same -/

/-- The rows differ in nulls, in the letter case of names, and in how their values say the same. -/
inductive Restated (t : Table) : Row → Row → Prop
  | nil : Restated t [] []
  | cell {name name' : String} {c : Column} {v w : Value} {row row' : Row} :
      t.column? name = some c → Text.lower name = Text.lower name' → SameValue c.kind v w →
      Restated t row row' → Restated t (⟨name, v⟩ :: row) (⟨name', w⟩ :: row')
  | added (name : String) {row row' : Row} :
      Restated t row row' → Restated t row (⟨name, .null⟩ :: row')
  | dropped (name : String) {row row' : Row} :
      Restated t row row' → Restated t (⟨name, .null⟩ :: row) row'

variable {t : Table} {row row' : Row}

theorem column?_respelled {name name' : String} (h : Text.lower name = Text.lower name') :
    t.column? name' = t.column? name := by
  simp only [Table.column?, Text.sameName, h]

theorem Restated.texts_eq (h : Restated t row row') :
    row.filterMap (cellText? t) = row'.filterMap (cellText? t) := by
  induction h with
  | nil => rfl
  | @cell name name' c v w row row' hc hname hvalue _ ih =>
      have hcell : cellText? t ⟨name, v⟩ = cellText? t ⟨name', w⟩ := by
        simp only [cellText?, Cell.isNull, beq_iff_eq, hvalue.null_iff, column?_respelled hname,
          hc, Option.map_some, hvalue.canonicalText_eq]
      rw [List.filterMap_cons, List.filterMap_cons, hcell, ih]
  | added name _ ih => exact ih
  | dropped name _ ih => exact ih

theorem Restated.placed (h : Restated t row row') (hrow : Placed t [row]) : Placed t [row'] := by
  simp only [Placed, List.forall_mem_singleton] at hrow ⊢
  induction h with
  | nil => exact hrow
  | cell hc hname _ _ ih =>
      obtain ⟨-, hrow⟩ := List.forall_mem_cons.mp hrow
      refine List.forall_mem_cons.mpr ⟨fun _ => ?_, ih hrow⟩
      rw [column?_respelled hname, hc, Option.isSome_some]
  | added name _ ih => exact List.forall_mem_cons.mpr ⟨by simp [Cell.isNull], ih hrow⟩
  | dropped name _ ih => exact ih (List.forall_mem_cons.mp hrow).2

theorem placed_restated {rows rows' : List Row} (h : List.Forall₂ (Restated t) rows rows')
    (hrows : Placed t rows) : Placed t rows' := by
  induction h with
  | nil => exact hrows
  | cons hrow _ ih =>
      obtain ⟨hfirst, hothers⟩ := List.forall_mem_cons.mp hrows
      have hfirst' := hrow.placed (List.forall_mem_singleton.mpr hfirst)
      exact List.forall_mem_cons.mpr ⟨List.forall_mem_singleton.mp hfirst', ih hothers⟩

theorem texts_restated {rows rows' : List Row} (h : List.Forall₂ (Restated t) rows rows') :
    texts t rows = texts t rows' := by
  induction h with
  | nil => rfl
  | cons hrow _ ih =>
      rw [texts, texts, List.map_cons, List.map_cons, hrow.texts_eq, ← texts, ih, texts]

theorem tableReport_restated {rows rows' : List Row} (h : List.Forall₂ (Restated t) rows rows')
    (hrows : Placed t rows) : tableReport t rows' = tableReport t rows := by
  have hempty : rows.isEmpty = rows'.isEmpty := by cases h <;> rfl
  rw [tableReport_eq hrows, tableReport_eq (placed_restated h hrows), texts_restated h,
    h.length_eq, hempty]

/-! ## The digest as it is told -/

theorem length_littleEndian (width n : Nat) : (littleEndian width n).length = width := by
  induction width generalizing n with
  | zero => rfl
  | succ width ih => rw [littleEndian, List.length_cons, ih]

/-- A digest is told in thirty-two hexadecimal digits. -/
theorem md5Hex_digits (message : List UInt8) : (md5Hex message).length = 32
    ∧ ∀ c ∈ (md5Hex message).toList, c ∈ "0123456789ABCDEF".toList := by
  constructor
  · simp [md5Hex, md5, hexByte, length_littleEndian]
  · have hdigit : ∀ d < 16, Text.hexUpperDigit d ∈ "0123456789ABCDEF".toList := by decide
    intro c hc
    rw [md5Hex, String.toList_ofList] at hc
    obtain ⟨b, -, hc⟩ := List.mem_flatMap.mp hc
    obtain rfl | rfl : c = _ ∨ c = _ := by simpa [hexByte] using hc
    · exact hdigit _ (Nat.div_lt_of_lt_mul b.toNat_lt)
    · exact hdigit _ (Nat.mod_lt _ (by decide))

example : md5Hex [0x61, 0x62, 0x63] = "900150983CD24FB0D6963F7D28E17F72" := by
  decide +kernel

/-! ## Databases -/

/-- The digest of a database asks for the columns that are backed up. -/
def survey (ε : Type) : Survey ε RowError (SourceError ε) TableReport where
  request := request
  make := tableReport
  refused := .source
  unfit := .row

variable {τ ε : Type} {source : Source (StateM τ) ε}

/-- Of the rows of the first table a report is made, and then the other tables are asked for. -/
theorem tableReports_cons {t : Table} {ts : List Table} {rows : List Row} {s s₁ : τ}
    (h : (source (request t)).run s = (.ok rows, s₁)) :
    (tableReports source (t :: ts)).run s =
      match tableReport t rows with
      | .error e => (.error (.row e), s₁)
      | .ok report => (((tableReports source ts).run s₁).1.map (report :: ·),
          ((tableReports source ts).run s₁).2) := by
  rw [tableReports, run_bind_of_eq h]
  dsimp only
  cases tableReport t rows <;> rfl

theorem tableReports_ends (ts : List Table) (s : τ) :
    (survey ε).Ends source s ts ((tableReports source ts).run s).1
      ((tableReports source ts).run s).2 := by
  induction ts generalizing s with
  | nil => exact .done (.nil s)
  | cons t ts ih =>
      cases hanswer : (source (request t)).run s with
      | mk answer s₁ =>
          cases answer with
          | error e =>
              rw [tableReports, run_bind_of_eq hanswer]
              exact .refused_first ts hanswer
          | ok rows =>
              rw [tableReports_cons hanswer]
              cases hreport : tableReport t rows with
              | error e => exact .unfit_first ts hanswer hreport
              | ok report => exact .cons hanswer hreport (ih s₁)

/-- **The digest depends on canonical content alone.** If every value is in a column, there is a
digest: it is taken of the canonical texts by row and column, which are ASCII, and is told in
thirty-two digits. Rows that say the same in other ways have the same digest. The digests of a
database are those of the rows that the source gives for one table after another. -/
theorem report_canonical :
    (∀ (t : Table) (rows : List Row), Placed t rows →
      tableReport t rows = .ok ⟨t.name, rows.length,
          if rows.isEmpty then none else some (md5Hex (hashed (texts t rows)))⟩
        ∧ (∀ row ∈ texts t rows, ∀ cell ∈ row, Text.Ascii cell.text)
        ∧ ∀ rows', List.Forall₂ (Restated t) rows rows' →
          Placed t rows' ∧ tableReport t rows' = tableReport t rows)
      ∧ (∀ message, (md5Hex message).length = 32
        ∧ ∀ c ∈ (md5Hex message).toList, c ∈ "0123456789ABCDEF".toList)
      ∧ ∀ {τ ε : Type} (source : Source (StateM τ) ε) (db : Database) (s : τ),
        (survey ε).Ends source s db.tables ((report source db).run s).1
          ((report source db).run s).2 := by
  refine ⟨fun t rows hrows => ⟨tableReport_eq hrows, ascii_texts, fun rows' hrestated => ?_⟩,
    md5Hex_digits, fun source db s => tableReports_ends db.tables s⟩
  exact ⟨placed_restated hrestated hrows, tableReport_restated hrestated hrows⟩

theorem report_canonical_item :
    let id : Column := ⟨"id", "INT", .integer, true, false, false, none⟩
    let done : Column := ⟨"done", "BIT", .boolean, false, true, false, none⟩
    let came : Column := ⟨"came", "DATETIME", .timestamp, false, true, false, none⟩
    let name : Column := ⟨"name", "VARCHAR(9)", .text, false, true, false, none⟩
    let t : Table := ⟨"item", [id, done, came, name]⟩
    let row : Row := [⟨"id", .int 7⟩, ⟨"done", .bytes [0, 1]⟩,
      ⟨"came", .moment ⟨⟨2024, 2, 29⟩, ⟨23, 30, 0, 5⟩, none⟩⟩, ⟨"name", .text ("Tom" ++ "")⟩]
    let row' : Row := [⟨"ID", .int 7⟩, ⟨"Done", .text "TRUE"⟩, ⟨"photo", .null⟩,
      ⟨"came", .moment ⟨⟨2024, 2, 29⟩, .midnight, some 3600⟩⟩, ⟨"name", .text ("Tom" ++ " \n")⟩]
    Placed t [row] ∧ List.Forall₂ (Restated t) [row] [row'] ∧ row ≠ row'
      ∧ tableReport t [row'] = .ok ⟨"item", 1, some "E1F7588B4569AD22715E5EAD8921ABC7"⟩ := by
  intro id done came name t row row'
  have hplaced : Placed t [row] := by decide +kernel
  have hid : t.column? "id" = some id := by decide +kernel
  have hdone : t.column? "done" = some done := by decide +kernel
  have hcame : t.column? "came" = some came := by decide +kernel
  have hname : t.column? "name" = some name := by decide +kernel
  have htrue : SameValue done.kind (.bytes [0, 1]) (.text "TRUE") :=
    .truth (b := true) (.packed [0, 1] (.inl rfl) (by decide)) (.word (by decide +kernel))
  have hday : SameValue came.kind (.moment ⟨⟨2024, 2, 29⟩, ⟨23, 30, 0, 5⟩, none⟩)
      (.moment ⟨⟨2024, 2, 29⟩, .midnight, some 3600⟩) := .day (.moment _ _) (.moment _ _)
  have hblanks : SameValue name.kind (.text ("Tom" ++ "")) (.text ("Tom" ++ " \n")) :=
    .blanks _ _ (by decide) (by decide)
  have hrow : Restated t row row' :=
    .cell hid (by decide +kernel) (.refl _ _) <| .cell hdone (by decide +kernel) htrue <|
      .added "photo" <| .cell hcame rfl hday <| .cell hname rfl hblanks .nil
  have hrows : List.Forall₂ (Restated t) [row] [row'] := .cons hrow .nil
  obtain ⟨-, -, hsame⟩ := report_canonical.1 t [row] hplaced
  refine ⟨hplaced, hrows, by decide, (hsame _ hrows).2.trans ?_⟩
  decide +kernel

end Tablekeep.Digest
