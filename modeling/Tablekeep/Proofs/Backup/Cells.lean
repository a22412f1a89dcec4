import Tablekeep.Proofs.Backup.Descent
import Tablekeep.Proofs.Definition.Validity

/-!
# The cells of a row

What a row comes to depends on its cells through one question only: which text, if any, does
it hold for a column? `Content.cellText?` asks it of the elements of the row, by any spelling
of the column's name; the reader asks it of the list of cells that it has collected, by the
column's own name. In a valid table the answers are the same, because a cell is refused that
names a column a second time.

From there on the order of the cells is gone: `rowPairs` goes through the columns of the table
in the order of the definition.
-/

namespace Tablekeep.Backup

open Markup

/-- The text of the first element that names the column. -/
def cellText? (row : Content) (c : Column) : Option String :=
  (row.children.find? fun cell => Text.sameName cell.1 c.name).map (·.2.ownText)

/-- The elements of a row each name a column that can be restored, and hold no elements. -/
def NamesColumns (t : Table) (row : Content) : Prop :=
  ∀ cell ∈ row.children,
    (∃ c ∈ t.selected, Text.sameName cell.1 c.name = true) ∧ cell.2.children = []

/-- No two elements name one column. -/
def NamesOnce (row : Content) : Prop :=
  row.children.Pairwise fun a b => Text.sameName a.1 b.1 = false

/-- None of the elements names a column that has a cell already. -/
def NamesFresh (t : Table) (cells : List (String × String)) (row : Content) : Prop :=
  ∀ cell ∈ row.children, ∀ c ∈ t.selected, Text.sameName cell.1 c.name = true →
    cells.lookup c.name = none

namespace Reader

variable {t : Table} {cells cells' : List (String × String)}

/-! ## Collecting cells -/

/-- An element makes a cell if it names a selected column that has none, and holds no elements. -/
theorem cellsIn_element_eq_some_iff (ht : t.Valid) {tag : String} {inner rest : Content} :
    cellsIn t cells (.element tag inner rest) = some cells' ↔
      ∃ c ∈ t.selected, Text.sameName tag c.name = true ∧ cells.lookup c.name = none
        ∧ inner.children = []
        ∧ cellsIn t ((c.name, inner.ownText) :: cells) rest = some cells' := by
  have hcolumn : cellsIn t cells (.element tag inner rest) = some cells' ↔
      ∃ c, (t.column? tag = some c ∧ c.isBlob = false) ∧ cells.lookup c.name = none
        ∧ inner.children = []
        ∧ cellsIn t ((c.name, inner.ownText) :: cells) rest = some cells' := by
    rw [cellsIn]
    cases t.column? tag with
    | none => simp
    | some c =>
        simp only [Option.some.injEq, and_assoc, exists_eq_left']
        by_cases hblob : c.isBlob = true
        · simp [hblob]
        · cases hlookup : cells.lookup c.name with
          | some text => simp
          | none =>
              by_cases hflat : inner.children = []
              · simp [hblob, hflat]
              · simp [hflat]
  simp only [hcolumn, ht.column?_selected_iff, and_assoc]

/-- Cells can be collected exactly from blank text and elements that name the columns of the table,
each of them once. -/
theorem exists_cellsIn_iff (ht : t.Valid) (row : Content) :
    (∃ cells', cellsIn t cells row = some cells') ↔
      Text.Blank row.ownText ∧ NamesColumns t row ∧ NamesOnce row ∧ NamesFresh t cells row := by
  induction row generalizing cells with
  | empty => simp [cellsIn, Content.ownText, NamesColumns, NamesOnce, NamesFresh, Content.children]
  | text s rest ih =>
      rw [cellsIn, Content.ownText, Text.blank_append]
      by_cases hs : Text.Blank s
      · simp only [hs, ↓reduceIte, true_and]
        exact ih
      · simp [hs]
  | element tag inner rest _ ih =>
      simp only [cellsIn_element_eq_some_iff ht]
      constructor
      · rintro ⟨cells', c, hc, hname, hnone, hflat, hrest⟩
        obtain ⟨hblank, hcolumns, honce, hfresh⟩ := ih.mp ⟨cells', hrest⟩
        refine ⟨hblank, ?_, ?_, ?_⟩
        · exact List.forall_mem_cons.mpr ⟨⟨⟨c, hc, hname⟩, hflat⟩, hcolumns⟩
        · -- a later element of this name would not be fresh, as the column has a cell by then
          refine List.pairwise_cons.mpr ⟨fun cell hcell => ?_, honce⟩
          by_contra hsame
          have hagain : Text.sameName cell.1 c.name = true :=
            Text.sameName_trans (Text.sameName_symm (by simpa using hsame)) hname
          have := hfresh cell hcell c hc hagain
          simp at this
        · refine List.forall_mem_cons.mpr ⟨fun d hd hdname => ?_, fun cell hcell d hd hdname => ?_⟩
          · rw [ht.eq_of_named hd hc hdname hname]
            exact hnone
          · have := hfresh cell hcell d hd hdname
            rw [List.lookup_cons] at this
            split at this
            · cases this
            · exact this
      · rintro ⟨hblank, hcolumns, honce, hfresh⟩
        obtain ⟨⟨⟨c, hc, hname⟩, hflat⟩, hcolumns⟩ := List.forall_mem_cons.mp hcolumns
        obtain ⟨hother, honce⟩ := List.pairwise_cons.mp honce
        obtain ⟨hhere, hfresh⟩ := List.forall_mem_cons.mp hfresh
        -- the cell that was added takes nothing from the others, which name other columns
        have hfresh' : NamesFresh t ((c.name, inner.ownText) :: cells) rest := by
          intro cell hcell d hd hdname
          rw [List.lookup_cons]
          split
          · rename_i heq
            rw [beq_iff_eq] at heq
            rw [heq] at hdname
            have := Text.sameName_trans hname (Text.sameName_symm hdname)
            rw [hother cell hcell] at this
            cases this
          · exact hfresh cell hcell d hd hdname
        obtain ⟨cells', hrest⟩ := ih.mpr ⟨hblank, hcolumns, honce, hfresh'⟩
        exact ⟨cells', c, hc, hname, hhere c hc hname, hflat, hrest⟩

/-- A column that has a cell already is not named again. -/
theorem cellsIn_fresh (ht : t.Valid) {row : Content} (h : cellsIn t cells row = some cells')
    {c : Column} (hc : c ∈ t.selected) (hlookup : cells.lookup c.name ≠ none) :
    cellText? row c = none := by
  obtain ⟨-, -, -, hfresh⟩ := (exists_cellsIn_iff ht row).mp ⟨cells', h⟩
  simp only [cellText?, Option.map_eq_none_iff, List.find?_eq_none]
  intro cell hcell hname
  exact hlookup (hfresh cell hcell c hc hname)

/-- The list of cells answers as the elements do. -/
theorem cellsIn_lookup (ht : t.Valid) {row : Content} (h : cellsIn t cells row = some cells')
    {c : Column} (hc : c ∈ t.selected) :
    cells'.lookup c.name = (cellText? row c).or (cells.lookup c.name) := by
  induction row generalizing cells with
  | empty =>
      rw [cellsIn, Option.some.injEq] at h
      simp [h, cellText?, Content.children]
  | text s rest ih =>
      rw [cellsIn] at h
      split at h
      · exact ih h
      · cases h
  | element tag inner rest _ ih =>
      obtain ⟨d, hd, hname, -, -, hrest⟩ := (cellsIn_element_eq_some_iff ht).mp h
      rw [ih hrest]
      -- the list is searched from its latest cell, the row from its first element
      by_cases hhere : Text.sameName tag c.name = true
      · have hsame : c = d := ht.eq_of_named hc hd hhere hname
        subst hsame
        rw [cellsIn_fresh ht hrest hc (by simp)]
        simp [cellText?, Content.children, hhere]
      · have hne : (c.name == d.name) = false := by
          rw [beq_eq_false_iff_ne]
          intro he
          rw [← he] at hname
          exact hhere hname
        rw [List.lookup_cons, hne]
        simp [cellText?, Content.children, hhere]

/-! ## From cells to pairs -/

/-- The literal of a cell, or nothing where there is no cell. -/
def pairsOf (zone : Option Int) (text? : Column → Option String) :
    List Column → Option (List (String × String))
  | [] => some []
  | c :: cs =>
    match text? c with
    | none => if c.isNullable then pairsOf zone text? cs else none
    | some text =>
      match literal zone c (some text) with
      | .error _ => none
      | .ok l => (pairsOf zone text? cs).map ((c.name, l) :: ·)

/-- The pairs of a row follow from what its cells hold, in whatever order they stand. -/
theorem rowPairs_toOption (zone : Option Int) {text? : Column → Option String}
    {cs : List Column} (h : ∀ c ∈ cs, cells.lookup c.name = text? c) :
    (rowPairs zone t cells cs).toOption = pairsOf zone text? cs := by
  induction cs with
  | nil => rfl
  | cons c cs ih =>
      have ih := ih fun d hd => h d (List.mem_cons_of_mem _ hd)
      rw [rowPairs, pairsOf, h c (List.mem_cons_self ..)]
      cases text? c with
      | none =>
          simp only
          split
          · exact ih
          · rfl
      | some text =>
          simp only
          cases literal zone c (some text) with
          | error e => rfl
          | ok l =>
              simp only
              rw [← ih]
              cases rowPairs zone t cells cs <;> rfl

/-- The row that is inserted for the pairs of a table. -/
def insertOf (t : Table) (pairs : List (String × String)) : Option RowInsert :=
  if t.selected = [] then none
  else if pairs = [] then some ⟨t.name, t.selected.map fun c => (c.name, "null"), t.hasIdentity⟩
  else some ⟨t.name, pairs, t.hasIdentity⟩

theorem pairsOf_nil_of_selected_nil {zone : Option Int} {text? : Column → Option String}
    {pairs : List (String × String)} (h : t.selected = [])
    (hp : pairsOf zone text? t.selected = some pairs) : pairs = [] := by
  rw [h, pairsOf] at hp
  simpa using hp.symm

theorem rowInsert_toOption {zone : Option Int} {text? : Column → Option String}
    (h : ∀ c ∈ t.selected, cells.lookup c.name = text? c) :
    (rowInsert zone t cells).toOption = (pairsOf zone text? t.selected).bind (insertOf t) := by
  have hpairs := rowPairs_toOption zone h (t := t)
  unfold rowInsert
  cases hrow : rowPairs zone t cells t.selected with
  | error e =>
      rw [hrow] at hpairs
      simp only [← hpairs]
      rfl
  | ok pairs =>
      rw [hrow] at hpairs
      have hsome : pairsOf zone text? t.selected = some pairs := hpairs.symm
      rw [hsome]
      cases pairs with
      | nil =>
          simp only [Option.bind_some, insertOf, List.isEmpty_iff]
          by_cases hnil : t.selected = []
          · simp [hnil, Except.toOption]
          · simp [hnil, Except.toOption]
      | cons p ps =>
          have hne : t.selected ≠ [] := by
            intro hnil
            exact absurd (pairsOf_nil_of_selected_nil hnil hsome) (by simp)
          simp [insertOf, hne, Except.toOption]

/-- **A row in full.** It is read if its cells can be collected, and then the columns of the table
decide what is inserted. -/
theorem rowIn_eq_some_iff (r : Reader) (ht : t.Valid) {row : Content} {ins : RowInsert} :
    r.rowIn t [] row = some ins ↔
      (Text.Blank row.ownText ∧ NamesColumns t row ∧ NamesOnce row)
        ∧ ∃ pairs, pairsOf r.zone (cellText? row) t.selected = some pairs
          ∧ insertOf t pairs = some ins := by
  have hiff : (∃ cells', cellsIn t [] row = some cells') ↔
      Text.Blank row.ownText ∧ NamesColumns t row ∧ NamesOnce row := by
    rw [exists_cellsIn_iff ht]
    simp [NamesFresh]
  unfold rowIn
  rw [← hiff]
  cases h : cellsIn t [] row with
  | none => simp
  | some cells =>
      have hlookup : ∀ c ∈ t.selected, cells.lookup c.name = cellText? row c := by
        intro c hc
        rw [cellsIn_lookup ht h hc]
        simp
      rw [Option.bind_some, rowInsert_toOption hlookup, Option.bind_eq_some_iff]
      simp

end Reader

end Tablekeep.Backup
