/-!
# What the user is told

Everything that is shown goes into one journal in the order in which it is shown: lines with style
marks in brackets, lines that are shown as they are, tables, and records with a level. How it looks
in the end is not decided here.
-/

namespace Tablekeep

/-- How important a record is. -/
inductive Level where
  | debug
  | info
  | warning
  | error
  deriving DecidableEq, Repr

/-- The name of a level. -/
def Level.name : Level → String
  | debug => "DEBUG"
  | info => "INFO"
  | warning => "WARNING"
  | error => "ERROR"

/-- Something that is shown. -/
inductive Entry where
  | record (level : Level) (text : String)
  /-- A line in which brackets mark styles. -/
  | line (text : String)
  /-- A text that is shown as it is. -/
  | plain (text : String)
  | table (title : String) (columns : List String) (rows : List (List String))
  deriving DecidableEq, Repr

end Tablekeep
