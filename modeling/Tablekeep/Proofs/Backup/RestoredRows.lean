import Tablekeep.Backup.Writer
import Tablekeep.Proofs.Backup.Cells
import Tablekeep.Proofs.Backup.Restored

/-!
# What becomes of a row

The cells of a row may come in any order and under any spelling of the names of their
columns. In the document they keep their order but bear the columns' own names, and
null is left out; the reader puts them into the order of the definition. So the restored
row follows from the table: for each selected column the literal of the cell that names it,
if there is one that is not null.

`CellElement` ties a cell to the element that is written for it. It is all that has to be
known of the element to see which literal its column gets.
-/

namespace Tablekeep.Backup

open Markup Calendar

variable {zone zone' : Option Int} {t : Table} {row : Row}

/-! ## Rows -/

/-- The row can be written and restored. -/
structure RestorableRow (zone zone' : Option Int) (t : Table) (row : Row) : Prop where
  /-- Every cell names a column that is no large object, and its value comes through. -/
  columns : ∀ cell ∈ row, ∃ c ∈ t.selected, Text.sameName cell.name c.name = true
    ∧ (cell.isNull = false → Restorable zone zone' c.kind cell.value)
  /-- No column is named twice. -/
  once : row.Pairwise fun a b => Text.sameName a.name b.name = false
  /-- A column that cannot be null has a value. -/
  required : ∀ c ∈ t.selected, c.isNullable = false →
    ∃ cell ∈ row, Text.sameName cell.name c.name = true ∧ cell.isNull = false

/-- The selected columns that have a value in the row, with their literals. -/
def restoredPairs (zone zone' : Option Int) (t : Table) (row : Row) : List (String × String) :=
  t.selected.filterMap fun c =>
    (row.find? fun cell => Text.sameName cell.name c.name && !cell.isNull).map fun cell =>
      (c.name, restoredLiteral zone zone' c cell.value)

/-- What a row is restored as: null in all columns if it has no value at all. -/
def restoredRow (zone zone' : Option Int) (t : Table) (row : Row) : RowInsert :=
  let pairs := restoredPairs zone zone' t row
  ⟨t.name, if pairs.isEmpty then t.selected.map fun c => (c.name, "null") else pairs,
    t.hasIdentity⟩

/-! ## Cells and their elements -/

/-- The element stands for the cell. -/
structure CellElement (zone zone' : Option Int) (t : Table) (cell : Cell)
    (element : String × Content) : Prop where
  column : ∃ c ∈ t.selected, Text.sameName cell.name c.name = true ∧ element.1 = c.name
    ∧ literal zone' c (some element.2.ownText) = .ok (restoredLiteral zone zone' c cell.value)
  flat : element.2.children = []

/-- Elements and cells name the same columns. -/
theorem CellElement.sameName {cell : Cell} {element : String × Content}
    (h : CellElement zone zone' t cell element) (name : String) :
    Text.sameName element.1 name = Text.sameName cell.name name := by
  obtain ⟨c, -, hname, htag, -⟩ := h.column
  rw [Text.sameName_iff] at hname
  rw [htag, Bool.eq_iff_iff, Text.sameName_iff, Text.sameName_iff, hname]

/-- The characters of an element are those of its tags and of what it holds. -/
theorem toList_element (name inside : String) :
    (openTag name ++ inside ++ closeTag name).toList = tagged name.toList inside.toList := by
  simp [openTag, closeTag, tagged]

/-- For the cells that are not null elements are written that stand for them. -/
theorem exists_cellElements (ht : t.Valid) (hnames : ∀ c ∈ t.selected, isName c.name.toList = true)
    (hzone : (zone'.getD 0).natAbs < dayMicros)
    (hcolumns : ∀ cell ∈ row, ∃ c ∈ t.selected, Text.sameName cell.name c.name = true
      ∧ (cell.isNull = false → Restorable zone zone' c.kind cell.value)) :
    ∃ written elements, cellElements zone t row = .ok written
      ∧ List.Forall₂ SpelledElement (written.map String.toList) elements
      ∧ List.Forall₂ (CellElement zone zone' t) (row.filter fun cell => !cell.isNull) elements := by
  induction row with
  | nil => exact ⟨[], [], rfl, .nil, .nil⟩
  | cons cell row ih =>
      obtain ⟨hcell, hrow⟩ := List.forall_mem_cons.mp hcolumns
      obtain ⟨written, elements, hwritten, hspelled, hstand⟩ := ih hrow
      by_cases hnull : cell.isNull = true
      · -- null has no element, and the filter drops it as well
        refine ⟨written, elements, ?_, hspelled, ?_⟩
        · rw [cellElements, if_pos hnull, hwritten]
        · rw [List.filter_cons_of_neg (by simp [hnull])]
          exact hstand
      · obtain ⟨c, hc, hname, hvalue⟩ := hcell
        have hblob := (Table.mem_selected.mp hc).2
        obtain ⟨raw, text, content, hpassage⟩ :=
          exists_passage hblob hzone (hvalue (by simpa using hnull))
        have hcolumn : t.column? cell.name = some c :=
          (ht.column?_selected_iff.mpr ⟨hc, hname⟩).1
        refine ⟨(openTag c.name ++ raw ++ closeTag c.name) :: written,
          (c.name, content) :: elements, ?_, ?_, ?_⟩
        · rw [cellElements, if_neg hnull, hcolumn]
          simp only [hpassage.written, hwritten]
          rfl
        · rw [List.map_cons, toList_element]
          exact .cons (spelledElement_tagged (hnames c hc) hpassage.spelled.spelled) hspelled
        · rw [List.filter_cons_of_pos (by simpa using hnull)]
          refine .cons ⟨⟨c, hc, hname, rfl, ?_⟩, hpassage.spelled.children⟩ hstand
          rw [hpassage.spelled.ownText]
          exact hpassage.restored

/-! ## Elements and their literals -/

/-- The first element for a column gives the literal of the first cell for it. -/
theorem find?_elements (ht : t.Valid) {cells : List Cell} {elements : List (String × Content)}
    (h : List.Forall₂ (CellElement zone zone' t) cells elements) {c : Column}
    (hc : c ∈ t.selected) :
    ((elements.find? fun element => Text.sameName element.1 c.name).map
        fun element => literal zone' c (some element.2.ownText))
      = (cells.find? fun cell => Text.sameName cell.name c.name).map
        fun cell => .ok (restoredLiteral zone zone' c cell.value) := by
  induction h with
  | nil => rfl
  | @cons cell element cells elements hhead _ ih =>
      rw [List.find?_cons, List.find?_cons, hhead.sameName]
      by_cases hname : Text.sameName cell.name c.name = true
      · obtain ⟨d, hd, hdname, -, hliteral⟩ := hhead.column
        -- the cell may spell the name in its own way, but only one column has it
        have hsame : d = c := ht.eq_of_named hd hc hdname hname
        subst hsame
        simp [hname, hliteral]
      · simp only [hname]
        exact ih

/-- The pairs of the elements are those of the row. -/
theorem pairsOf_elements (ht : t.Valid) {elements : List (String × Content)}
    (h : List.Forall₂ (CellElement zone zone' t) (row.filter fun cell => !cell.isNull) elements)
    (hrequired : ∀ c ∈ t.selected, c.isNullable = false →
      ∃ cell ∈ row, Text.sameName cell.name c.name = true ∧ cell.isNull = false) :
    Reader.pairsOf zone' (cellText? (Content.dense elements)) t.selected
      = some (restoredPairs zone zone' t row) := by
  have hfind : ∀ c ∈ t.selected,
      (cellText? (Content.dense elements) c).map (fun text => literal zone' c (some text))
        = (row.find? fun cell => Text.sameName cell.name c.name && !cell.isNull).map
          fun cell => .ok (restoredLiteral zone zone' c cell.value) := by
    intro c hc
    have hcells : (row.filter fun cell => !cell.isNull).find?
          (fun cell => Text.sameName cell.name c.name)
        = row.find? fun cell => Text.sameName cell.name c.name && !cell.isNull := by
      rw [List.find?_filter]
      congr 1
      funext cell
      cases cell.isNull <;> simp
    rw [← hcells, ← find?_elements ht h hc]
    simp only [cellText?, Content.children_dense, Option.map_map, Function.comp_def]
  -- the induction goes down the columns, and the cells stay as they are
  have hall : ∀ cs : List Column, (∀ c ∈ cs, c ∈ t.selected) →
      Reader.pairsOf zone' (cellText? (Content.dense elements)) cs
        = some (cs.filterMap fun c =>
            (row.find? fun cell => Text.sameName cell.name c.name && !cell.isNull).map fun cell =>
              (c.name, restoredLiteral zone zone' c cell.value)) := by
    intro cs
    induction cs with
    | nil => intro _; rfl
    | cons c cs ih =>
        intro hcs
        obtain ⟨hc, hcs⟩ := List.forall_mem_cons.mp hcs
        have hhead := hfind c hc
        rw [Reader.pairsOf]
        cases hcell : row.find? fun cell => Text.sameName cell.name c.name && !cell.isNull with
        | none =>
            rw [hcell, Option.map_none, Option.map_eq_none_iff] at hhead
            -- no value for the column, which may then be null
            have hnull : c.isNullable = true := by
              by_contra hnull
              obtain ⟨cell, hmem, hname, hvalue⟩ := hrequired c hc (by simpa using hnull)
              have := List.find?_eq_none.mp hcell cell hmem
              simp [hname, hvalue] at this
            rw [hhead, List.filterMap_cons_none (by rw [hcell]; rfl)]
            simp only [hnull, ↓reduceIte]
            exact ih hcs
        | some cell =>
            rw [hcell, Option.map_some, Option.map_eq_some_iff] at hhead
            obtain ⟨text, htext, hliteral⟩ := hhead
            rw [htext, List.filterMap_cons_some (by rw [hcell]; rfl)]
            simp only [hliteral, ih hcs, Option.map_some]
  exact hall t.selected fun c hc => hc

theorem namesColumns_elements {cells : List Cell} {elements : List (String × Content)}
    (h : List.Forall₂ (CellElement zone zone' t) cells elements) :
    NamesColumns t (Content.dense elements) := by
  unfold NamesColumns
  rw [Content.children_dense]
  induction h with
  | nil => simp
  | cons hhead _ ih =>
      refine List.forall_mem_cons.mpr ⟨⟨?_, hhead.flat⟩, ih⟩
      obtain ⟨c, hc, -, htag, -⟩ := hhead.column
      exact ⟨c, hc, by rw [htag, Text.sameName_self]⟩

theorem exists_cell_of_mem {cells : List Cell} {elements : List (String × Content)}
    (h : List.Forall₂ (CellElement zone zone' t) cells elements) {element : String × Content}
    (hmem : element ∈ elements) : ∃ cell ∈ cells, CellElement zone zone' t cell element := by
  induction h with
  | nil => cases hmem
  | @cons cell _ cells _ hhead _ ih =>
      rcases List.mem_cons.mp hmem with rfl | hmem
      · exact ⟨cell, List.mem_cons_self .., hhead⟩
      · obtain ⟨cell, hcell, hstand⟩ := ih hmem
        exact ⟨cell, List.mem_cons_of_mem _ hcell, hstand⟩

theorem namesOnce_elements {cells : List Cell} {elements : List (String × Content)}
    (h : List.Forall₂ (CellElement zone zone' t) cells elements)
    (honce : cells.Pairwise fun a b => Text.sameName a.name b.name = false) :
    NamesOnce (Content.dense elements) := by
  unfold NamesOnce
  rw [Content.children_dense]
  induction h with
  | nil => exact .nil
  | cons hhead htail ih =>
      obtain ⟨hother, honce⟩ := List.pairwise_cons.mp honce
      refine List.pairwise_cons.mpr ⟨fun element hmem => ?_, ih honce⟩
      obtain ⟨cell, hcell, hstand⟩ := exists_cell_of_mem htail hmem
      rw [hhead.sameName, Text.sameName_comm, hstand.sameName, Text.sameName_comm]
      exact hother cell hcell

/-- The elements of a row are a row for the reader. -/
theorem rowIn_elements {r : Reader} (ht : t.Valid) (hselected : t.selected ≠ [])
    {elements : List (String × Content)}
    (h : List.Forall₂ (CellElement zone r.zone t) (row.filter fun cell => !cell.isNull) elements)
    (hrow : RestorableRow zone r.zone t row) :
    r.rowIn t [] (Content.dense elements) = some (restoredRow zone r.zone t row) := by
  have honce := namesOnce_elements h (hrow.once.filter fun cell => !cell.isNull)
  refine (Reader.rowIn_eq_some_iff r ht).mpr ⟨⟨?_, namesColumns_elements h, honce⟩, _,
    pairsOf_elements ht h hrow.required, ?_⟩
  · rw [Content.ownText_dense]
    exact Text.blank_empty
  · unfold Reader.insertOf restoredRow
    simp only [hselected, ↓reduceIte]
    split <;> simp_all

/-! ## Lines -/

theorem toList_join_empty (parts : List String) :
    (Text.join "" parts).toList = (parts.map String.toList).flatten := by
  induction parts with
  | nil => rfl
  | cons part parts ih =>
      cases parts with
      | nil => simp [Text.join]
      | cons next rest =>
          rw [Text.join, String.toList_append, String.toList_append, ih]
          simp

/-- The characters of the line of a row. -/
theorem toList_rowLine (name inside : String) :
    ("    " ++ openTag name ++ inside ++ closeTag name).toList
      = "    ".toList ++ tagged name.toList inside.toList := by
  rw [String.append_assoc, String.append_assoc, String.toList_append, ← String.append_assoc,
    toList_element]

/-- **A restorable row is written as an element that is read as the restored row.** -/
theorem exists_rowLine {r : Reader} (ht : t.Valid) (hname : isName t.name.toList = true)
    (hnames : ∀ c ∈ t.selected, isName c.name.toList = true) (hselected : t.selected ≠ [])
    (hzone : (r.zone.getD 0).natAbs < dayMicros) (hrow : RestorableRow zone r.zone t row) :
    ∃ line cs content, rowLine zone t row = .ok line ∧ line.toList = "    ".toList ++ cs
      ∧ SpelledElement cs (t.name, content)
      ∧ r.rowIn t [] content = some (restoredRow zone r.zone t row) := by
  obtain ⟨written, elements, hwritten, hspelled, hstand⟩ :=
    exists_cellElements ht hnames hzone hrow.columns
  refine ⟨"    " ++ openTag t.name ++ Text.join "" written ++ closeTag t.name,
    tagged t.name.toList (Text.join "" written).toList, Content.dense elements, ?_,
    toList_rowLine _ _, ?_, rowIn_elements ht hselected hstand hrow⟩
  · rw [rowLine, hwritten, Except.map]
  · rw [toList_join_empty]
    exact spelledElement_tagged hname (spelled_dense hspelled)

end Tablekeep.Backup
