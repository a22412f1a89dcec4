import Tablekeep.Definition.Plural
import Tablekeep.Proofs.Backup.Descent
import Tablekeep.Proofs.Backup.RestoredRows
import Tablekeep.Proofs.Markup.Document
import Tablekeep.Proofs.Server.Survey

/-!
# Restoring undoes backing up

The lines of a backup, put together and encoded, are read as the rows that were backed up,
each as its restored row, in the order of the tables and of the rows within them. This
holds for the whole format, so the statement has no document in it: it goes from what a
source answers to what the reader tells.

The proof goes up the layers of the document. A row is a line that spells an element; the
lines of a table spell a wrapper around its rows; the lines of all tables spell what
stands in the database. On every layer the line feed and the indentation before an
element belong to the element around it, where they are blank text.

What has to hold is gathered in `Faithful`, for names and zones, and `RestorableRow`, for
rows.
-/

namespace Tablekeep.Backup

open Markup Calendar

/-! ## What has to hold -/

/-- Documents of the database can bear its names, and tell its tables apart. -/
structure Faithful (r : Reader) : Prop where
  valid : r.database.Valid
  database : isName r.database.name.toList = true
  tables : ∀ t ∈ r.database.tables, isName t.name.toList = true
  columns : ∀ t ∈ r.database.tables, ∀ c ∈ t.selected, isName c.name.toList = true
  plurals : ∀ t ∈ r.database.tables, isName (r.plural t.name).toList = true
  /-- No two tables have one plural, in any spelling. -/
  distinct : r.database.tables.Pairwise fun t u =>
    Text.sameName (r.plural t.name) (r.plural u.name) = false
  /-- No clock is off by a day. -/
  zone : (r.zone.getD 0).natAbs < dayMicros

/-- The rows can be written and restored, and there are none if there is nothing to restore. -/
structure RestorableRows (zone zone' : Option Int) (t : Table) (rows : List Row) : Prop where
  selected : rows ≠ [] → t.selected ≠ []
  rows : ∀ row ∈ rows, RestorableRow zone zone' t row

/-- The rows of all tables, restored in order. -/
def restoredRows (zone : Option Int) (r : Reader) (given : List (List Row)) : List RowInsert :=
  (r.database.tables.zip given).flatMap fun (t, rows) => rows.map (restoredRow zone r.zone t)

/-! ## Lines -/

/-- What the lines come to when each is on a line of its own, after another one. -/
def below (lines : List String) : List Char :=
  lines.flatMap fun line => '\n' :: line.toList

theorem below_append (lines more : List String) :
    below (lines ++ more) = below lines ++ below more := by
  simp [below]

/-- What the lines of a table come to. -/
theorem below_wrapper (plural : String → String) (t : Table) (lines : List String) :
    below (wrapperOpen plural t :: lines ++ [wrapperClose plural t])
      = "\n  ".toList ++ tagged (plural t.name).toList (below lines ++ "\n  ".toList) := by
  rw [below_append]
  simp [below, wrapperOpen, wrapperClose, openTag, closeTag, tagged]

theorem toList_join_newline (line : String) (lines : List String) :
    (Text.join "\n" (line :: lines)).toList = line.toList ++ below lines := by
  induction lines generalizing line with
  | nil => simp [Text.join, below]
  | cons next lines ih =>
      rw [Text.join, String.toList_append, String.toList_append, ih]
      simp [below]

/-! ## Tables -/

/-- What stands before a row, -/
theorem gap_row : Gap "\n    " :=
  ⟨by decide, by decide, by decide⟩

/-- before a table or the end of one, -/
theorem gap_table : Gap "\n  " :=
  ⟨by decide, by decide, by decide⟩

/-- and before the end of the database. -/
theorem gap_end : Gap "\n" :=
  ⟨by decide, by decide, by decide⟩

section Layers

variable {r : Reader} {zone : Option Int} {t : Table}

/-- What the reader makes of elements that are rows of the table, between gaps. -/
theorem rowsIn_spaced {gap last : String} (hgap : Gap gap) (hlast : Gap last)
    {elements : List (String × Content)} {inserts : List RowInsert}
    (h : List.Forall₂ (fun element ins => Text.sameName element.1 t.name = true
      ∧ r.rowIn t [] element.2 = some ins) elements inserts) :
    r.rowsIn t (Content.spaced gap last elements) = some (inserts.map .row) := by
  induction h with
  | nil => simp [Content.spaced, Reader.rowsIn, hlast.blank]
  | cons hhead _ ih =>
      rw [Content.spaced, Reader.rowsIn, if_pos hgap.blank, Reader.rowsIn, if_pos hhead.1, hhead.2,
        ih]
      rfl

theorem exists_rowLines (hr : Faithful r) (ht : t ∈ r.database.tables) {rows : List Row}
    (h : RestorableRows zone r.zone t rows) :
    ∃ lines css elements, rowLines zone t rows = ⟨lines, none⟩
      ∧ below lines = css.flatMap ("\n    ".toList ++ ·)
      ∧ List.Forall₂ SpelledElement css elements
      ∧ List.Forall₂ (fun element ins => Text.sameName element.1 t.name = true
          ∧ r.rowIn t [] element.2 = some ins) elements
          (rows.map (restoredRow zone r.zone t)) := by
  obtain ⟨hselected, hrows⟩ := h
  induction rows with
  | nil => exact ⟨[], [], [], rfl, rfl, .nil, .nil⟩
  | cons row rows ih =>
      have hne := hselected (by simp)
      obtain ⟨hrow, hrows⟩ := List.forall_mem_cons.mp hrows
      obtain ⟨lines, css, elements, hlines, hbelow, hspelled, hread⟩ := ih (fun _ => hne) hrows
      obtain ⟨line, cs, content, hline, hchars, helement, hin⟩ :=
        exists_rowLine (hr.valid.tables t ht) (hr.tables t ht) (hr.columns t ht) hne hr.zone hrow
      refine ⟨line :: lines, cs :: css, (t.name, content) :: elements, ?_, ?_,
        .cons helement hspelled, .cons ⟨Text.sameName_self _, hin⟩ hread⟩
      · rw [rowLines, hline]
        simp only [hlines]
        rfl
      · rw [List.flatMap_cons, ← hbelow]
        simp [below, hchars]

/-- **A table is written as a wrapper that is read as its rows.** -/
theorem exists_tableLines (hr : Faithful r) (ht : t ∈ r.database.tables) {rows : List Row}
    (h : RestorableRows zone r.zone t rows) :
    ∃ lines cs content, tableLines r.plural zone t rows = ⟨lines, none⟩
      ∧ below lines = "\n  ".toList ++ cs ∧ SpelledElement cs (r.plural t.name, content)
      ∧ r.rowsIn t content = some (rows.map fun row => .row (restoredRow zone r.zone t row)) := by
  obtain ⟨lines, css, elements, hlines, hbelow, hspelled, hread⟩ :=
    exists_rowLines hr ht h
  refine ⟨wrapperOpen r.plural t :: lines ++ [wrapperClose r.plural t],
    tagged (r.plural t.name).toList (below lines ++ "\n  ".toList), _, ?_,
    below_wrapper _ _ _, ?_, rowsIn_spaced gap_row gap_table hread |>.trans ?_⟩
  · simp only [tableLines, hlines]
    rfl
  · rw [hbelow]
    exact spelledElement_tagged (hr.plurals t ht) (spelled_spaced gap_row gap_table hspelled)
  · rw [List.map_map]
    rfl

end Layers

/-! ## Sources -/

/-- The lines of all tables, if the source answers for each of them and no row is at fault. -/
theorem tablesLines_run {σ ε : Type} {source : Source (StateM σ) ε} {plural : String → String}
    {zone : Option Int} {ts : List Table} {given : List (List Row)} {s s' : σ}
    (hsource : (ts.mapM fun t => source (request t)).run s = (given.map .ok, s'))
    (hrows : ∀ x ∈ ts.zip given, (tableLines plural zone x.1 x.2).failure = none) :
    (tablesLines source plural zone ts).run s
      = (⟨(ts.zip given).flatMap fun x => (tableLines plural zone x.1 x.2).lines, none⟩, s') := by
  induction ts generalizing given s with
  | nil =>
      obtain ⟨-, hstate⟩ := Prod.mk.inj hsource
      rw [← hstate]
      rfl
  | cons t ts ih =>
      rw [List.mapM_cons] at hsource
      cases hanswer : (source (request t)).run s with
      | mk answer s₁ =>
          cases hothers : (ts.mapM fun t => source (request t)).run s₁ with
          | mk others s₂ =>
              -- the first answer and the others are those that were given
              rw [run_bind_of_eq hanswer, run_bind_of_eq hothers] at hsource
              obtain ⟨hanswers, hstate⟩ := Prod.mk.inj hsource
              cases given with
              | nil => cases hanswers
              | cons rows given =>
                  obtain ⟨rfl, rfl⟩ := List.cons.inj hanswers
                  rw [List.zip_cons_cons] at hrows ⊢
                  obtain ⟨hhere, hrest⟩ := List.forall_mem_cons.mp hrows
                  -- no row of the first table is at fault, so the source is asked for the next
                  have hlater := ih (hstate ▸ hothers) hrest
                  rw [tablesLines, run_bind_of_eq hanswer]
                  simp only [hhere]
                  rw [run_bind_of_eq hlater]
                  rfl

/-- The document is made of the lines of the tables, if all of them were written. -/
theorem documentLines_run {σ ε : Type} {source : Source (StateM σ) ε} {plural : String → String}
    {zone : Option Int} {db : Database} {lines : List String} {s s' : σ}
    (h : (tablesLines source plural zone db.tables).run s = (⟨lines, none⟩, s')) :
    (documentLines source plural zone db).run s
      = (⟨declaration :: openTag db.name :: lines ++ [closeTag db.name], none⟩, s') := by
  rw [documentLines, run_bind_of_eq h]
  rfl

/-! ## The document -/

/-- The lines of a document make up a declaration and the element of the database. -/
theorem join_document (name : String) (lines : List String) :
    Text.join "\n" (declaration :: openTag name :: lines ++ [closeTag name])
      = String.ofList
          (header ++ (['\n'] ++ (tagged name.toList (below lines ++ "\n".toList) ++ []))) := by
  have hfirst : declaration.toList = header := rfl
  have hrest : below (openTag name :: lines ++ [closeTag name])
      = '\n' :: tagged name.toList (below lines ++ "\n".toList) := by
    simp [below, openTag, closeTag, tagged]
  rw [← String.toList_inj, List.cons_append, toList_join_newline, String.toList_ofList, hfirst,
    hrest, List.append_nil, List.singleton_append]

/-- The rows among what is told of some tables. -/
theorem rows_flatMap (parts : List (Table × List RowInsert)) (failure : Option ReadError) :
    (⟨parts.flatMap fun part => .table part.1.name :: part.2.map .row, failure⟩ : ReadResult).rows
      = parts.flatMap (·.2) := by
  unfold ReadResult.rows
  induction parts with
  | nil => rfl
  | cons part parts ih =>
      rw [List.flatMap_cons, List.flatMap_cons, List.filterMap_append, ih]
      simp [List.filterMap_map]

section Document

variable {r : Reader} {zone : Option Int}

/-- What the reader makes of elements that are wrappers, between gaps. -/
theorem itemsIn_spaced {gap last : String} (hgap : Gap gap) (hlast : Gap last)
    {elements : List (String × Content)} {parts : List (Table × List RowInsert)}
    (h : List.Forall₂ (fun element part => r.topRole element.1 = .ok (.wrapper part.1)
      ∧ r.rowsIn part.1 element.2 = some (part.2.map .row)) elements parts) :
    r.itemsIn (Content.spaced gap last elements)
      = some (parts.flatMap fun part => .table part.1.name :: part.2.map .row) := by
  induction h with
  | nil => simp [Content.spaced, Reader.itemsIn, hlast.blank]
  | cons hhead _ ih =>
      rw [Content.spaced, Reader.itemsIn, if_pos hgap.blank, Reader.itemsIn, hhead.1]
      simp only [hhead.2, ih]
      simp

/-- A plural leads back to its table. -/
theorem topRole_plural (hr : Faithful r) {t : Table} (ht : t ∈ r.database.tables) :
    r.topRole (r.plural t.name) = .ok (.wrapper t) :=
  r.topRole_eq_wrapper_iff.mpr
    ((Text.find?_sameName_eq_some_iff hr.distinct).mpr ⟨ht, Text.sameName_self _⟩)

/-- The wrappers of some tables, one for each. -/
theorem exists_wrappers (hr : Faithful r) {ts : List Table} {given : List (List Row)}
    (hts : ∀ t ∈ ts, t ∈ r.database.tables)
    (hrows : List.Forall₂ (RestorableRows zone r.zone) ts given) :
    ∃ css elements, (∀ x ∈ ts.zip given, (tableLines r.plural zone x.1 x.2).failure = none)
      ∧ below ((ts.zip given).flatMap fun x => (tableLines r.plural zone x.1 x.2).lines)
          = css.flatMap ("\n  ".toList ++ ·)
      ∧ List.Forall₂ SpelledElement css elements
      ∧ List.Forall₂ (fun element part => r.topRole element.1 = .ok (.wrapper part.1)
          ∧ r.rowsIn part.1 element.2 = some (part.2.map .row)) elements
          ((ts.zip given).map fun x => (x.1, x.2.map (restoredRow zone r.zone x.1))) := by
  induction hrows with
  | nil => exact ⟨[], [], by simp, rfl, .nil, .nil⟩
  | @cons t rows ts given hhead _ ih =>
      obtain ⟨ht, hts⟩ := List.forall_mem_cons.mp hts
      obtain ⟨css, elements, hfailure, hbelow, hspelled, hread⟩ := ih hts
      obtain ⟨lines, cs, content, hlines, hchars, helement, hin⟩ :=
        exists_tableLines hr ht hhead
      refine ⟨cs :: css, (r.plural t.name, content) :: elements, ?_, ?_, .cons helement hspelled,
        .cons ⟨topRole_plural hr ht, ?_⟩ hread⟩
      · rw [List.zip_cons_cons]
        exact List.forall_mem_cons.mpr ⟨by rw [hlines], hfailure⟩
      · rw [List.zip_cons_cons, List.flatMap_cons, below_append, hbelow, hlines, hchars,
          List.flatMap_cons]
      · rw [hin, List.map_map]
        rfl

/-- **Restoring undoes backing up.** When the source answers for every table, with rows that are
restorable, the backup is written without a failure and read without one, and the rows that
are read are the restored rows of those that were answered. -/
theorem restore_backup (hr : Faithful r) {σ ε : Type} {source : Source (StateM σ) ε}
    {given : List (List Row)} {s s' : σ}
    (hsource : (r.database.tables.mapM fun t => source (request t)).run s = (given.map .ok, s'))
    (hrows : List.Forall₂ (RestorableRows zone r.zone) r.database.tables given) :
    ∃ lines, (documentLines source r.plural zone r.database).run s = (⟨lines, none⟩, s')
      ∧ (r.read (Text.Utf8.encode (Text.join "\n" lines))).failure = none
      ∧ (r.read (Text.Utf8.encode (Text.join "\n" lines))).rows = restoredRows zone r given := by
  obtain ⟨css, elements, hfailure, hbelow, hspelled, hread⟩ :=
    exists_wrappers hr (fun _ ht => ht) hrows
  refine ⟨_, documentLines_run (tablesLines_run hsource hfailure), ?_⟩
  -- the line feed after the declaration is layout, those inside the database are its own text
  have hinside := spelled_spaced gap_table gap_end hspelled
  have hbefore : Layout ['\n'] := by decide
  have hafter : Layout [] := by decide
  have hparsed := read_spelled hr.database hinside hbefore hafter
  have hitems := itemsIn_spaced gap_table gap_end hread
  have hroot := (r.readEvents_element_iff ⟨String.ofList r.database.name.toList, _⟩ _).mpr (by
    rw [Reader.itemsOf, String.ofList_toList, if_pos (Text.sameName_self _)]
    exact hitems)
  rw [join_document, hbelow, Reader.read, hparsed]
  change (r.readEvents _).failure = none ∧ (r.readEvents _).rows = _
  rw [hroot]
  refine ⟨rfl, ?_⟩
  rw [rows_flatMap, List.flatMap_map]
  rfl

/-- An item comes back with its name quoted and its time moved by an hour. -/
theorem restore_backup_shelf :
    let r : Reader := ⟨.shelf, Plural.ofName, some 3600000000⟩
    let row : Row := [⟨"NAME", .text "Tom & Jerry's  "⟩, ⟨"id", .int 7⟩,
      ⟨"came", .moment ⟨⟨2024, 3, 1⟩, ⟨9, 30, 0, 5⟩, none⟩⟩]
    let source : Source (StateM Nat) String := fun _ n => (.ok [row], n + 1)
    ∃ lines, (documentLines source r.plural none r.database).run 0 = (⟨lines, none⟩, 1)
      ∧ (r.read (Text.Utf8.encode (Text.join "\n" lines))).failure = none
      ∧ (r.read (Text.Utf8.encode (Text.join "\n" lines))).rows
        = [⟨"item", [("id", "7"), ("name", "'Tom & Jerry''s'"), ("came", "'2024-03-01T10:30:00'")],
            true⟩] := by
  intro r row source
  have hfaithful : Faithful r := by
    constructor <;> decide +kernel
  have hmoment : Restorable none r.zone .timestamp
      (.moment ⟨⟨2024, 3, 1⟩, ⟨9, 30, 0, 5⟩, none⟩) :=
    ⟨_, ⟨⟨2024, 3, 1⟩, ⟨9, 30, 0, 5⟩, some 0⟩, ⟨⟨2024, 3, 1⟩, ⟨10, 30, 0, 5⟩, some 3600000000⟩, rfl,
      by decide +kernel, by decide, by decide +kernel⟩
  have hrow : ∀ t ∈ r.database.tables, RestorableRow none r.zone t row := by
    intro t ht
    obtain rfl := List.mem_singleton.mp ht
    refine ⟨?_, by decide +kernel, by decide +kernel⟩
    refine List.forall_mem_cons.mpr ⟨?_, List.forall_mem_cons.mpr ⟨?_, List.forall_mem_cons.mpr
      ⟨?_, by simp⟩⟩⟩
    · have hname : Documentable (Text.trimEnd "Tom & Jerry's  ") := by decide +kernel
      exact ⟨⟨"name", "NVARCHAR(20)", .text, false, false, true, none⟩, by decide,
        by decide +kernel, fun _ => hname⟩
    · exact ⟨⟨"id", "INT", .integer, true, false, false, none⟩, by decide, by decide +kernel,
        fun _ => .inl rfl⟩
    · exact ⟨⟨"came", "DATETIME", .timestamp, false, true, false, none⟩, by decide,
        by decide +kernel, fun _ => hmoment⟩
  have hrows : List.Forall₂ (RestorableRows none r.zone) r.database.tables [[row]] :=
    .cons ⟨fun _ => by decide, by simpa using hrow _ (by decide)⟩ .nil
  have hsource : (r.database.tables.mapM fun t => source (request t)).run 0
      = ([[row]].map .ok, 1) := rfl
  obtain ⟨lines, hlines, hfailure, hread⟩ := restore_backup hfaithful hsource hrows
  refine ⟨lines, hlines, hfailure, hread.trans ?_⟩
  decide +kernel

end Document

end Tablekeep.Backup
