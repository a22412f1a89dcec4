import Tablekeep.Script.Dialect
import Tablekeep.Text.Blank

/-!
# Statements that insert a row

A restored row is a list of columns with a literal for each. Where explicit identity values have to
be announced, the statement is put between the two that switch them on and off, for this row alone.
-/

namespace Tablekeep.Backup

/-- A row to be inserted. -/
structure RowInsert where
  table : String
  /-- The columns and their literals, in order. -/
  pairs : List (String × String)
  /-- The table has an identity column. -/
  hasIdentity : Bool
  deriving DecidableEq, Repr

namespace RowInsert

/-- The names of the columns between commas. -/
def columns (r : RowInsert) : String :=
  Text.join "," (r.pairs.map (·.1))

/-- The literals between commas. -/
def values (r : RowInsert) : String :=
  Text.join "," (r.pairs.map (·.2))

/-- The statement that inserts the row. -/
def statement (r : RowInsert) : String :=
  "INSERT INTO " ++ r.table ++ " (" ++ r.columns ++ ") VALUES (" ++ r.values ++ ");"

/-- What is sent to a server of the dialect. -/
def batch (d : Dialect) (r : RowInsert) : String :=
  if d.needsIdentityInsert && r.hasIdentity then
    "SET IDENTITY_INSERT " ++ r.table ++ " ON; " ++ r.statement ++ " SET IDENTITY_INSERT "
      ++ r.table ++ " OFF;"
  else r.statement

end RowInsert

end Tablekeep.Backup
