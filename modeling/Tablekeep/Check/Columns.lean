import Tablekeep.Definition.Basic
import Tablekeep.Server.Source

/-!
# The columns that should be there

One row of each table is looked at. A cell that no column declares is extra, a column without a cell
is missing, and a value whose observed type is not that of the column is a mismatch. All this is
worth a warning and nothing more: the sample is one row, and types are guessed from values.
-/

namespace Tablekeep.Check

/-- A value that is not of the declared type. -/
structure Mismatch where
  /-- The column as the cell spells it. -/
  column : String
  observed : String
  declared : String
  deriving DecidableEq, Repr

/-- What was found in one table. -/
structure TableCheck where
  table : String
  /-- There was no row to look at. -/
  skipped : Bool
  /-- The cells that no column declares. -/
  extra : List String
  mismatches : List Mismatch
  /-- The columns that no cell names. -/
  missing : List String
  deriving DecidableEq, Repr

/-! ## Wording -/

/-- The warning about a cell that no column declares. -/
def extraMessage (table column : String) : String :=
  "Database table " ++ table ++ " has additional column " ++ column

/-- The warning about a column without a cell. -/
def missingMessage (table column : String) : String :=
  "Column " ++ column ++ " is missing from " ++ table

/-- The warning about a value of another type. -/
def Mismatch.message (table : String) (m : Mismatch) : String :=
  "Table: " ++ table ++ ", Column: " ++ m.column ++ ", Database Type: " ++ m.observed
    ++ ", Definition: " ++ m.declared

namespace TableCheck

/-- There is something to warn of. -/
def hasWarnings (c : TableCheck) : Bool :=
  !c.extra.isEmpty || !c.missing.isEmpty || !c.mismatches.isEmpty

/-- The warnings in the order in which they were found. -/
def warnings (c : TableCheck) : List String :=
  c.extra.map (extraMessage c.table) ++ c.mismatches.map (Mismatch.message c.table)
    ++ c.missing.map (missingMessage c.table)

/-- A check that found nothing. -/
def clean (table : String) (skipped : Bool) : TableCheck :=
  ⟨table, skipped, [], [], []⟩

end TableCheck

/-! ## The check of a table -/

/-- Drivers that cannot tell two types apart: packed bits come as bytes, and single precision comes
as double. -/
def isExempt (kind : ValueKind) (observed : String) : Bool :=
  (kind == .boolean && observed == "UINT64") || (kind == .single && observed == "DOUBLE")

/-- The mismatch of a cell with its column, if there is one; a null says nothing about its type. -/
def mismatch? (column : Column) (cell : Cell) : Option Mismatch :=
  let observed := cell.value.observedType
  if cell.isNull || observed == column.kind.name || isExempt column.kind observed then none
  else some ⟨cell.name, observed, column.declared⟩

/-- The cell is of a column that is declared. -/
def isDeclared (t : Table) (cell : Cell) : Bool :=
  (t.column? cell.name).isSome

/-- The names, as declared, of the columns that have a cell. -/
def seen (t : Table) (sample : Row) : List String :=
  sample.filterMap fun cell => (t.column? cell.name).map (·.name)

/-- The check of one row; a row without cells is as good as none. -/
def table (t : Table) (sample : Option Row) : TableCheck :=
  match sample with
  | none => .clean t.name true
  | some [] => .clean t.name true
  | some (cell :: cells) =>
    let row := cell :: cells
    { table := t.name
      skipped := false
      extra := (row.filter fun c => !isDeclared t c).map (·.name)
      mismatches := row.filterMap fun c => (t.column? c.name).bind (mismatch? · c)
      missing := (t.selected.map (·.name)).filter fun name => !(seen t row).contains name }

/-! ## The check of a database -/

/-- What was found in all tables. -/
structure DatabaseCheck where
  database : String
  tables : List TableCheck
  deriving DecidableEq, Repr

namespace DatabaseCheck

/-- No table has warnings. -/
def isValid (c : DatabaseCheck) : Bool :=
  !c.tables.any (·.hasWarnings)

/-- The warnings of all tables in order. -/
def warnings (c : DatabaseCheck) : List String :=
  c.tables.flatMap (·.warnings)

/-- A line for each table that had no row. -/
def notices (c : DatabaseCheck) : List String :=
  (c.tables.filter (·.skipped)).map fun t =>
    "Cannot check table " ++ t.table ++ " because it is empty."

/-- The verdict. -/
def summary (c : DatabaseCheck) : String :=
  if c.isValid then "Everything looks OK. As far as I can tell database and definition match."
  else "Warnings issued. Database does not match definition."

end DatabaseCheck

/-- The checks of the tables in order, up to the first failure of the source. -/
def tablesOf {m : Type → Type} [Monad m] {ε : Type} (source : Source m ε) :
    List Table → m (Except ε (List TableCheck))
  | [] => pure (.ok [])
  | t :: ts => do
    match ← source ⟨t.name, none, some 1⟩ with
    | .error e => pure (.error e)
    | .ok rows => do
      let rest ← tablesOf source ts
      pure (rest.map (table t rows.getLast? :: ·))

/-- The check of a database: one row of every table is looked at. -/
def database {m : Type → Type} [Monad m] {ε : Type} (source : Source m ε) (db : Database) :
    m (Except ε DatabaseCheck) := do
  let checks ← tablesOf source db.tables
  pure (checks.map (⟨db.name, ·⟩))

end Tablekeep.Check
