import Tablekeep.Backup.Writer
import Tablekeep.Digest.Md5

/-!
# Digests of tables

The digest of a table is taken over the canonical texts of its cells that are not null, in the order
of the rows and, within a row, of the cells. Two servers that hold the same content report the same
digest, whatever their dialect. An empty table has none.
-/

namespace Tablekeep.Digest

/-- The number of rows of a table and the digest of their content. -/
structure TableReport where
  table : String
  rows : Nat
  digest : Option String
  deriving DecidableEq, Repr

/-- The canonical texts of the cells of a row, one after another. -/
def rowText (t : Table) : Row → Except RowError String
  | [] => .ok ""
  | c :: cs =>
    if c.isNull then rowText t cs
    else
      match t.column? c.name with
      | none => .error (.unknownColumn t.name c.name)
      | some column =>
        (rowText t cs).map fun rest => Backup.canonicalText column.kind c.value ++ rest

/-- The canonical texts of all rows, one after another. -/
def contentText (t : Table) : List Row → Except RowError String
  | [] => .ok ""
  | row :: rows => do
    let text ← rowText t row
    let rest ← contentText t rows
    return text ++ rest

/-- The report of a table with the given rows. Canonical texts are ASCII, so that each character is
one byte. -/
def tableReport (t : Table) (rows : List Row) : Except RowError TableReport :=
  (contentText t rows).map fun content =>
    ⟨t.name, rows.length,
      if rows.isEmpty then none
      else some (md5Hex (content.toList.map fun c => UInt8.ofNat c.toNat))⟩

/-- The reports of the tables in order, up to the first failure. -/
def tableReports {m : Type → Type} [Monad m] {ε : Type} (source : Source m ε) :
    List Table → m (Except (SourceError ε) (List TableReport))
  | [] => pure (.ok [])
  | t :: ts => do
    match ← source (Backup.request t) with
    | .error e => pure (.error (.source e))
    | .ok rows =>
      match tableReport t rows with
      | .error e => pure (.error (.row e))
      | .ok report => do
        let rest ← tableReports source ts
        pure (rest.map (report :: ·))

/-- The reports of the tables of a database. -/
def report {m : Type → Type} [Monad m] {ε : Type} (source : Source m ε) (db : Database) :
    m (Except (SourceError ε) (List TableReport)) :=
  tableReports source db.tables

end Tablekeep.Digest
