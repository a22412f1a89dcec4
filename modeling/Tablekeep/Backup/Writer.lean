import Tablekeep.Backup.CellText
import Tablekeep.Server.Source
import Tablekeep.Text.Blank

/-!
# Writing a backup

The document has one element for the database, in it one wrapper for each table, named by the plural
of the table, and in that one element for each row on a line of its own:

    <?xml version="1.0"?>
    <shop>
      <customers>
        <customer><id>1</id><name>Acme</name></customer>
      </customers>
    </shop>

Cells that are null are left out. The lines are written as the rows come, so when something fails
there are lines already: the result is always the lines and, beside them, what stopped the work.
-/

namespace Tablekeep.Backup

/-! ## Elements -/

/-- The tag that opens an element. -/
def openTag (name : String) : String := "<" ++ name ++ ">"

/-- The tag that closes an element. -/
def closeTag (name : String) : String := "</" ++ name ++ ">"

/-- The elements of the cells that are not null, in the order of the row. -/
def cellElements (zone : Option Int) (t : Table) : Row → Except RowError (List String)
  | [] => .ok []
  | c :: cs =>
    if c.isNull then cellElements zone t cs
    else
      match t.column? c.name with
      | none => .error (.unknownColumn t.name c.name)
      | some column =>
        match cellText zone column.kind c.value with
        | .error fault => .error (.value fault)
        | .ok text =>
          (cellElements zone t cs).map fun rest =>
            (openTag column.name ++ text ++ closeTag column.name) :: rest

/-- The line of a row. -/
def rowLine (zone : Option Int) (t : Table) (row : Row) : Except RowError String :=
  (cellElements zone t row).map fun elements =>
    "    " ++ openTag t.name ++ Text.join "" elements ++ closeTag t.name

/-! ## Lines and what stopped them -/

/-- Lines that have been written, and why no more were. -/
structure Written (ε : Type) where
  lines : List String
  failure : Option ε

namespace Written

/-- Lines before those of `w`. -/
def after (lines : List String) (w : Written ε) : Written ε :=
  ⟨lines ++ w.lines, w.failure⟩

end Written

/-- The lines of the rows, up to the first that cannot be written. -/
def rowLines (zone : Option Int) (t : Table) : List Row → Written RowError
  | [] => ⟨[], none⟩
  | row :: rows =>
    match rowLine zone t row with
    | .error e => ⟨[], some e⟩
    | .ok line => (rowLines zone t rows).after [line]

/-- The line that opens the wrapper of a table, and the one that closes it. -/
def wrapperOpen (plural : String → String) (t : Table) : String :=
  "  " ++ openTag (plural t.name)

@[inherit_doc wrapperOpen]
def wrapperClose (plural : String → String) (t : Table) : String :=
  "  " ++ closeTag (plural t.name)

/-- The lines of a table: the wrapper around the lines of its rows. -/
def tableLines (plural : String → String) (zone : Option Int) (t : Table) (rows : List Row) :
    Written RowError :=
  let body := rowLines zone t rows
  let ending := if body.failure.isNone then [wrapperClose plural t] else []
  ⟨wrapperOpen plural t :: body.lines ++ ending, body.failure⟩

/-! ## The document -/

/-- The first line of every document. -/
def declaration : String := "<?xml version=\"1.0\"?>"

/-- The request for the rows of a table: all columns but the large objects. -/
def request (t : Table) : RowRequest :=
  ⟨t.name, some (t.selected.map (·.name)), none⟩

/-- The lines of the tables in order. A wrapper is opened before its rows are asked for. -/
def tablesLines {m : Type → Type} [Monad m] {ε : Type} (source : Source m ε)
    (plural : String → String) (zone : Option Int) :
    List Table → m (Written (SourceError ε))
  | [] => pure ⟨[], none⟩
  | t :: ts => do
    match ← source (request t) with
    | .error e => pure ⟨[wrapperOpen plural t], some (.source e)⟩
    | .ok rows =>
      let here := tableLines plural zone t rows
      match here.failure with
      | some e => pure ⟨here.lines, some (.row e)⟩
      | none => do
        let rest ← tablesLines source plural zone ts
        pure (rest.after here.lines)

/-- The lines of the document. -/
def documentLines {m : Type → Type} [Monad m] {ε : Type} (source : Source m ε)
    (plural : String → String) (zone : Option Int) (db : Database) :
    m (Written (SourceError ε)) := do
  let body ← tablesLines source plural zone db.tables
  let ending := if body.failure.isNone then [closeTag db.name] else []
  pure ⟨declaration :: openTag db.name :: body.lines ++ ending, body.failure⟩

/-- The document as one text, every line ended. -/
def documentText (lines : List String) : String :=
  Text.join "" (lines.map (· ++ "\n"))

end Tablekeep.Backup
