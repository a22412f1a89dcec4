import Tablekeep.Proofs.Backup.RestoredRows
import Tablekeep.Proofs.Digest.Stored

/-!
# Digests of restored rows

A table is backed up and restored, and its digest is taken again. The rows that are there now
are those that the insertions of the restored rows left behind, read under the same names.
The two digests are taken of the same text if and only if all texts of the table are settled.

A row is gone through cell by cell, and each cell keeps its share of the text or gets a
shorter one. So no cell can make up for another, and what holds of the cells holds of rows
and of the table.
-/

namespace Tablekeep.Digest

open Backup Calendar Markup

variable {zone : Int} {t : Table} {row : Row}

/-! ## Rows that can be carried over -/

/-- Every value of the row is portable, and the row can be one of the table. -/
structure PortableRow (zone : Int) (t : Table) (row : Row) : Prop where
  columns : ∀ cell ∈ row, ∃ c ∈ t.selected, Text.sameName cell.name c.name = true
    ∧ (cell.isNull = false → Portable zone c.kind cell.value)
  once : row.Pairwise fun a b => Text.sameName a.name b.name = false
  required : ∀ c ∈ t.selected, c.isNullable = false →
    ∃ cell ∈ row, Text.sameName cell.name c.name = true ∧ cell.isNull = false

theorem PortableRow.restorable (h : PortableRow zone t row) :
    RestorableRow (some zone) (some zone) t row where
  columns cell hcell :=
    let ⟨c, hc, hname, hvalue⟩ := h.columns cell hcell
    ⟨c, hc, hname, fun hnull => (hvalue hnull).restorable⟩
  once := h.once
  required := h.required

/-- The element has the column's own name and holds what is written for the cell. -/
def CellSpelled (zone : Option Int) (t : Table) (cell : Cell) (element : String × Content) : Prop :=
  ∃ c ∈ t.selected, Text.sameName cell.name c.name = true ∧ element.1 = c.name
    ∧ ∃ raw text, cellText zone c.kind cell.value = .ok raw
      ∧ SpelledText raw.toList text element.2

/-- The cells of the row that are not null are written, and what is written is read as the
insertion. -/
def Carried (zone : Int) (t : Table) (row : Row) (ins : RowInsert) : Prop :=
  ∃ elements,
    List.Forall₂ (CellSpelled (some zone) t) (row.filter fun cell => !cell.isNull) elements
    ∧ ∀ r : Reader, r.zone = some zone → r.rowIn t [] (Content.dense elements) = some ins

/-- A portable row is carried over as its restored row. -/
theorem carried_restoredRow (ht : t.Valid) (hselected : t.selected ≠ [])
    (hzone : ((some zone).getD 0).natAbs < dayMicros) (h : PortableRow zone t row) :
    Carried zone t row (restoredRow (some zone) (some zone) t row) := by
  have hcell : ∀ cell ∈ row.filter fun cell => !cell.isNull, ∃ element : String × Content,
      CellSpelled (some zone) t cell element
        ∧ CellElement (some zone) (some zone) t cell element := by
    intro cell hmem
    obtain ⟨hcell, hnull⟩ := List.mem_filter.mp hmem
    obtain ⟨c, hc, hname, hvalue⟩ := h.restorable.columns cell hcell
    obtain ⟨raw, text, content, hpassage⟩ :=
      exists_passage (Table.mem_selected.mp hc).2 hzone (hvalue (by simpa using hnull))
    refine ⟨(c.name, content), ⟨c, hc, hname, rfl, raw, text, hpassage.written, hpassage.spelled⟩,
      ⟨c, hc, hname, rfl, ?_⟩, hpassage.spelled.children⟩
    rw [hpassage.spelled.ownText]
    exact hpassage.restored
  obtain ⟨elements, helements⟩ := exists_forall₂ hcell
  refine ⟨elements, helements.imp fun cell element hboth => hboth.1, fun r hr => ?_⟩
  have hstand : List.Forall₂ (CellElement (some zone) r.zone t)
      (row.filter fun cell => !cell.isNull) elements := by
    rw [hr]
    exact helements.imp fun cell element hboth => hboth.2
  have hrow : RestorableRow (some zone) r.zone t row := by
    rw [hr]
    exact h.restorable
  rw [rowIn_elements ht hselected hstand hrow, hr]

/-! ## Rows that insertions leave behind -/

/-- The column may hold the value after the row was inserted; what the row leaves out is null. -/
def LeftIn (ins : RowInsert) (c : Column) (v : Value) : Prop :=
  match ins.pairs.lookup c.name with
  | none => v = .null
  | some l => LeftBy c l v

/-- The cells of a row as they are after an insertion, asked for by the names of the cells. -/
def RowLeft (t : Table) (ins : RowInsert) (row stored : Row) : Prop :=
  List.Forall₂ (fun cell cell' => cell'.name = cell.name
    ∧ ∃ c, t.column? cell.name = some c ∧ LeftIn ins c cell'.value) row stored

/-- The rows that are there after the restored rows were inserted. -/
def RowsLeft (zone : Int) (t : Table) (rows stored : List Row) : Prop :=
  List.Forall₂ (fun row => RowLeft t (restoredRow (some zone) (some zone) t row) row) rows stored

/-! ### The literal of a cell -/

variable (zone) in
/-- A restored row has for a column the literal of the cell that names it, or null if there is no
value. -/
theorem lookup_restoredRow (ht : t.Valid) {c : Column} (hc : c ∈ t.selected)
    (honce : row.Pairwise fun a b => Text.sameName a.name b.name = false) {cell : Cell}
    (hcell : cell ∈ row) (hname : Text.sameName cell.name c.name = true) :
    (cell.isNull = false → (restoredRow (some zone) (some zone) t row).pairs.lookup c.name
        = some (restoredLiteral (some zone) (some zone) c cell.value))
      ∧ (cell.isNull = true → (restoredRow (some zone) (some zone) t row).pairs.lookup c.name = none
        ∨ (restoredRow (some zone) (some zone) t row).pairs.lookup c.name = some "null") := by
  have hpairs : (restoredPairs (some zone) (some zone) t row).lookup c.name
      = (row.find? fun cell => Text.sameName cell.name c.name && !cell.isNull).map
        fun cell => restoredLiteral (some zone) (some zone) c cell.value :=
    Column.lookup_filterMap ht.selected_names hc
  -- another cell of the name would be this one
  have hfound : ∀ cell' ∈ row, Text.sameName cell'.name c.name = true → cell' = cell := by
    intro cell' hcell' hname'
    exact Text.eq_of_sameName honce hcell' hcell
      (Text.sameName_trans hname' (Text.sameName_symm hname))
  constructor
  · intro hnull
    have hfind : (row.find? fun cell => Text.sameName cell.name c.name && !cell.isNull)
        = some cell := by
      cases hf : row.find? fun cell => Text.sameName cell.name c.name && !cell.isNull with
      | none =>
          have hnot := List.find?_eq_none.mp hf cell hcell
          simp [hname, hnull] at hnot
      | some cell' =>
          have hboth := List.find?_some hf
          rw [Bool.and_eq_true] at hboth
          rw [hfound cell' (List.mem_of_find?_eq_some hf) hboth.1]
    rw [hfind, Option.map_some] at hpairs
    have hsome : (restoredPairs (some zone) (some zone) t row).isEmpty = false := by
      rw [← Bool.not_eq_true, List.isEmpty_iff]
      intro hnil
      rw [hnil] at hpairs
      cases hpairs
    simp only [restoredRow, hsome, Bool.false_eq_true, ↓reduceIte]
    exact hpairs
  · intro hnull
    have hfind : (row.find? fun cell => Text.sameName cell.name c.name && !cell.isNull) = none := by
      rw [List.find?_eq_none]
      intro cell' hcell' hboth
      rw [Bool.and_eq_true] at hboth
      rw [hfound cell' hcell' hboth.1, hnull] at hboth
      cases hboth.2
    rw [hfind, Option.map_none] at hpairs
    -- a row without any value has the word for null in every column
    by_cases hempty : (restoredPairs (some zone) (some zone) t row).isEmpty = true
    · have hall : (t.selected.map fun c => (c.name, "null")).lookup c.name = some "null" := by
        rw [← List.filterMap_eq_map]
        exact Column.lookup_filterMap (f := fun _ => some ()) (g := fun _ _ => "null")
          ht.selected_names hc
      right
      simp only [restoredRow, hempty, ↓reduceIte]
      exact hall
    · left
      simp only [restoredRow, hempty, ↓reduceIte, Bool.false_eq_true]
      exact hpairs

/-! ## Shares -/

/-- A row gives the shares of its cells, one after another. -/
theorem rowText_cons {cell : Cell} {c : Column} (hc : t.column? cell.name = some c) (row : Row) :
    rowText t (cell :: row) = (rowText t row).map (share c.kind cell.value ++ ·) := by
  rw [rowText, Cell.isNull, share]
  by_cases hnull : cell.value = .null
  · rw [if_pos hnull, if_pos (by rw [hnull]; rfl)]
    cases rowText t row with
    | error e => rfl
    | ok text => exact congrArg Except.ok (String.empty_append).symm
  · rw [if_neg hnull, if_neg (by simpa using hnull), hc]

/-- An insertion leaves something for a cell, and it has the share of the cell or less of it. -/
theorem leftIn_cell (ht : t.Valid) (hzone : ClockOffset zone) (hrow : PortableRow zone t row)
    {cell : Cell} (hcell : cell ∈ row) {c : Column} (hc : t.column? cell.name = some c) :
    (∃ w, LeftIn (restoredRow (some zone) (some zone) t row) c w)
      ∧ ∀ w, LeftIn (restoredRow (some zone) (some zone) t row) c w →
        Shrinks (SettledValue cell.value) (share c.kind cell.value) (share c.kind w) := by
  obtain ⟨d, hd, hname, hvalue⟩ := hrow.columns cell hcell
  have hsame : some c = some d := hc.symm.trans (ht.column?_selected_iff.mpr ⟨hd, hname⟩).1
  obtain rfl := Option.some.inj hsame
  obtain ⟨hfull, hnull⟩ := lookup_restoredRow zone ht hd hrow.once hcell hname
  unfold LeftIn
  cases hempty : cell.isNull with
  | false =>
      rw [hfull hempty]
      obtain ⟨hexists, hshrinks⟩ := returns_restoredLiteral hzone (hvalue hempty)
      exact ⟨hexists, hshrinks⟩
  | true =>
      -- null comes back as null, whether or not the insertion has the column
      have hleft : ∀ w, LeftIn (restoredRow (some zone) (some zone) t row) c w ↔ w = .null := by
        intro w
        unfold LeftIn
        rcases hnull hempty with hnone | hword
        · rw [hnone]
        · rw [hword]
          exact leftBy_null
      have hvalue : cell.value = .null := by simpa [Cell.isNull] using hempty
      refine ⟨⟨.null, (hleft _).mpr rfl⟩, fun w hw => ?_⟩
      rw [hvalue, (hleft w).mp hw]
      exact (Shrinks.refl _).congr (iff_of_true trivial fun s hs => by cases hs)

/-- So has the row that is left. -/
theorem shrinks_row (ht : t.Valid) (hzone : ClockOffset zone) (hrow : PortableRow zone t row)
    {stored : Row} (h : RowLeft t (restoredRow (some zone) (some zone) t row) row stored) :
    ∃ text text', rowText t row = .ok text ∧ rowText t stored = .ok text'
      ∧ Shrinks (∀ cell ∈ row, SettledValue cell.value) text text' := by
  -- the insertion is one of the whole row, and the cells are gone through
  have hall : ∀ {cells stored : Row}, (∀ cell ∈ cells, cell ∈ row) →
      RowLeft t (restoredRow (some zone) (some zone) t row) cells stored →
      ∃ text text', rowText t cells = .ok text ∧ rowText t stored = .ok text'
        ∧ Shrinks (∀ cell ∈ cells, SettledValue cell.value) text text' := by
    intro cells stored hcells h
    induction h with
    | nil => exact ⟨"", "", rfl, rfl, (Shrinks.refl _).congr (by simp)⟩
    | @cons cell cell' cells stored hhead _ ih =>
        obtain ⟨hcell, hcells⟩ := List.forall_mem_cons.mp hcells
        obtain ⟨hname, c, hc, hleft⟩ := hhead
        obtain ⟨text, text', htext, htext', hshrinks⟩ := ih hcells
        refine ⟨share c.kind cell.value ++ text, share c.kind cell'.value ++ text', ?_, ?_, ?_⟩
        · rw [rowText_cons hc, htext]
          rfl
        · rw [rowText_cons (hname ▸ hc), htext']
          rfl
        · rw [List.forall_mem_cons]
          exact ((leftIn_cell ht hzone hrow hcell hc).2 _ hleft).append hshrinks
  exact hall (fun _ hcell => hcell) h

/-- And so has the table. -/
theorem shrinks_rows (ht : t.Valid) (hzone : ClockOffset zone) {rows stored : List Row}
    (hrows : ∀ row ∈ rows, PortableRow zone t row) (h : RowsLeft zone t rows stored) :
    ∃ text text', contentText t rows = .ok text ∧ contentText t stored = .ok text'
      ∧ Shrinks (∀ row ∈ rows, ∀ cell ∈ row, SettledValue cell.value) text text' := by
  induction h with
  | nil => exact ⟨"", "", rfl, rfl, (Shrinks.refl _).congr (by simp)⟩
  | @cons row row' rows stored hhead _ ih =>
      obtain ⟨hrow, hrows⟩ := List.forall_mem_cons.mp hrows
      obtain ⟨first, first', hfirst, hfirst', hshrinks⟩ := shrinks_row ht hzone hrow hhead
      obtain ⟨text, text', htext, htext', hshrinks'⟩ := ih hrows
      refine ⟨first ++ text, first' ++ text', ?_, ?_, ?_⟩
      · rw [contentText, hfirst, htext]
        rfl
      · rw [contentText, hfirst', htext']
        rfl
      · rw [List.forall_mem_cons]
        exact hshrinks.append hshrinks'

/-! ## The digest -/

/-- **The digest of a restored table is taken of the same text if and only if all of its texts are
settled.** Portable rows are carried over as their restored rows, these leave rows behind, and
whatever they leave has the digest of the rows that were there before, unless the text of a
cell has blanks that show at its end when characters are dropped. -/
theorem report_restored (ht : t.Valid) (hzone : ClockOffset zone) {rows : List Row}
    (hselected : rows ≠ [] → t.selected ≠ []) (hrows : ∀ row ∈ rows, PortableRow zone t row) :
    (∀ row ∈ rows, Carried zone t row (restoredRow (some zone) (some zone) t row))
    ∧ (∃ stored, RowsLeft zone t rows stored)
    ∧ ∀ stored, RowsLeft zone t rows stored →
      (contentText t stored = contentText t rows ↔
        ∀ row ∈ rows, ∀ cell ∈ row, SettledValue cell.value)
      ∧ ((∀ row ∈ rows, ∀ cell ∈ row, SettledValue cell.value) →
        tableReport t stored = tableReport t rows) := by
  refine ⟨fun row hrow => ?_, ?_, fun stored hstored => ?_⟩
  · exact carried_restoredRow ht (hselected (List.ne_nil_of_mem hrow)) hzone.lt (hrows row hrow)
  · refine exists_forall₂ fun row hrow => exists_forall₂ fun cell hcell => ?_
    obtain ⟨c, hc, hname, -⟩ := (hrows row hrow).columns cell hcell
    have hcolumn := (ht.column?_selected_iff.mpr ⟨hc, hname⟩).1
    obtain ⟨w, hw⟩ := (leftIn_cell ht hzone (hrows row hrow) hcell hcolumn).1
    exact ⟨⟨cell.name, w⟩, rfl, c, hcolumn, hw⟩
  · obtain ⟨text, text', htext, htext', hshrinks⟩ := shrinks_rows ht hzone hrows hstored
    have hsame : contentText t stored = contentText t rows ↔
        ∀ row ∈ rows, ∀ cell ∈ row, SettledValue cell.value := by
      rw [htext, htext', Except.ok.injEq]
      exact hshrinks.eq_iff
    refine ⟨hsame, fun hsettled => ?_⟩
    have hlength := hstored.length_eq
    have hempty : stored.isEmpty = rows.isEmpty := by
      rw [Bool.eq_iff_iff, List.isEmpty_iff, List.isEmpty_iff, ← List.length_eq_zero_iff,
        ← List.length_eq_zero_iff, hlength]
    rw [tableReport, tableReport, hsame.mpr hsettled, hlength, hempty]

/-- An item comes back without the blanks at the end of its name and without the parts of its
second, and nobody can tell by the digest. -/
theorem report_restored_shelf :
    let zone : Int := 3600000000
    let row : Row := [⟨"NAME", .text "Tom & Jerry's \x01 B  "⟩, ⟨"id", .int 7⟩,
      ⟨"came", .moment ⟨⟨2024, 3, 1⟩, ⟨0, 30, 0, 5⟩, none⟩⟩]
    ∀ t ∈ Database.shelf.tables,
      (∃ stored, RowsLeft zone t [row] stored)
        ∧ ∀ stored, RowsLeft zone t [row] stored → tableReport t stored = tableReport t [row] := by
  intro zone row t ht
  have hvalid : ∀ t ∈ Database.shelf.tables, t.Valid := by decide
  have hzone : ClockOffset zone := ⟨by decide, by decide⟩
  have hrow : ∀ t ∈ Database.shelf.tables, PortableRow zone t row := by
    intro t ht
    obtain rfl := List.mem_singleton.mp ht
    refine ⟨?_, by decide +kernel, by decide +kernel⟩
    refine List.forall_mem_cons.mpr ⟨?_, List.forall_mem_cons.mpr ⟨?_, List.forall_mem_cons.mpr
      ⟨?_, by simp⟩⟩⟩
    · exact ⟨⟨"name", "NVARCHAR(20)", .text, false, false, true, none⟩, by decide,
        by decide +kernel, fun _ => ⟨_, rfl, by decide +kernel⟩⟩
    · exact ⟨⟨"id", "INT", .integer, true, false, false, none⟩, by decide, by decide +kernel,
        fun _ => ⟨7, rfl⟩⟩
    · exact ⟨⟨"came", "DATETIME", .timestamp, false, true, false, none⟩, by decide,
        by decide +kernel, fun _ => ⟨_, ⟨⟨2024, 2, 29⟩, ⟨23, 30, 0, 5⟩, some 0⟩, rfl, rfl,
          by decide, ⟨by decide, by decide, by decide, by decide⟩, by decide, by decide +kernel,
          by decide⟩⟩
  have hselected : ∀ t ∈ Database.shelf.tables, t.selected ≠ [] := by decide
  have hrows : ∀ r ∈ [row], PortableRow zone t r := by simpa using hrow t ht
  obtain ⟨-, hexists, hsame⟩ :=
    report_restored (hvalid t ht) hzone (fun _ => hselected t ht) hrows
  refine ⟨hexists, fun stored hstored => (hsame stored hstored).2 ?_⟩
  have hname : Settled "Tom & Jerry's \x01 B  " := by decide +kernel
  rintro row' hrow' cell hcell s hs
  obtain rfl := List.mem_singleton.mp hrow'
  simp only [row, List.mem_cons, List.not_mem_nil, or_false] at hcell
  rcases hcell with rfl | rfl | rfl
  · obtain rfl := Value.text.inj hs
    exact hname
  · cases hs
  · cases hs

/-- **A blank before a dropped character is lost**: it is part of the digest of the row, but it is
the last character of what is restored. -/
theorem report_restored_of_blank :
    let t : Table := ⟨"t", [⟨"a", "TEXT", .text, false, true, false, none⟩]⟩
    let row : Row := [⟨"a", .text "x \x01"⟩]
    let stored : Row := [⟨"a", .text "x "⟩]
    t.Valid ∧ PortableRow 0 t row
      ∧ restoredRow (some 0) (some 0) t row = ⟨"t", [("a", "'x '")], false⟩
      ∧ RowsLeft 0 t [row] [stored]
      ∧ contentText t [row] = .ok "x " ∧ contentText t [stored] = .ok "x"
      ∧ tableReport t [row] ≠ tableReport t [stored] := by
  intro t row stored
  have hins : restoredRow (some 0) (some 0) t row = ⟨"t", [("a", "'x '")], false⟩ := by
    decide +kernel
  have hleft : RowsLeft 0 t [row] [stored] := by
    refine .cons (.cons ⟨rfl, ⟨"a", "TEXT", .text, false, true, false, none⟩, by decide +kernel, ?_⟩
      .nil) .nil
    rw [hins]
    exact ⟨.text "x ", by decide +kernel, rfl⟩
  refine ⟨by decide, ⟨?_, by decide, by decide +kernel⟩, hins, hleft, by decide +kernel,
    by decide +kernel, by decide +kernel⟩
  refine List.forall_mem_cons.mpr ⟨?_, by simp⟩
  exact ⟨⟨"a", "TEXT", .text, false, true, false, none⟩, by decide, by decide +kernel,
    fun _ => ⟨_, rfl, by decide +kernel⟩⟩

end Tablekeep.Digest
