import Tablekeep.Cell.Value

/-!
# Where rows come from

Backups, digests and checks ask for rows and do not care who answers. A `Source` is whatever answers
a request in some monad, with the rows or with an error of its own; who asks is told of the error
and stops.
-/

namespace Tablekeep

/-- A request for rows of a table. -/
structure RowRequest where
  table : String
  /-- The columns in the order wanted; `none` asks for all there are. -/
  columns : Option (List String)
  /-- How many rows at most. -/
  limit : Option Int
  deriving DecidableEq, Repr

/-- Something that answers requests for rows. -/
abbrev Source (m : Type → Type) (ε : Type) :=
  RowRequest → m (Except ε (List Row))

/-- Why rows could not be turned into text. -/
inductive RowError where
  /-- The row has a column that the table does not declare. -/
  | unknownColumn (table column : String)
  | value (fault : Calendar.Fault)
  deriving DecidableEq, Repr

/-- The wording of the error. -/
def RowError.message : RowError → String
  | unknownColumn table column =>
    "Row source returned column " ++ column ++ " not defined in table " ++ table
  | value fault => fault.message

/-- Why work on rows stopped: the source failed, or a row was no good. -/
inductive SourceError (ε : Type) where
  | source (error : ε)
  | row (error : RowError)
  deriving DecidableEq, Repr

end Tablekeep
