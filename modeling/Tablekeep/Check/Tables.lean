import Tablekeep.Definition.Basic
import Tablekeep.Text.Digits

/-!
# The tables that should be there

Before anything reads or writes rows, the names of the live tables are compared with the definition.
Names that differ only in letter case are one name; where several spellings of one name are live,
the last of them stands for it.
-/

namespace Tablekeep.Check

/-- What is missing and what is too much. -/
structure TableDiff where
  /-- Declared but not live, in order. -/
  missing : List String
  /-- Live but not declared, in order. -/
  extra : List String
  deriving DecidableEq, Repr

namespace TableDiff

/-- Nothing is missing and nothing is too much. -/
def isValid (d : TableDiff) : Bool :=
  d.missing.isEmpty && d.extra.isEmpty

/-- How many names differ. -/
def errorCount (d : TableDiff) : Nat :=
  d.missing.length + d.extra.length

/-- A headed list, if there is anything to list. -/
def part (heading : String) (names : List String) : List String :=
  if names.isEmpty then []
  else
    ("\n  " ++ heading ++ " (" ++ Text.decimal names.length ++ "):")
      :: names.map ("    - " ++ ·)

/-- The report to be read by people. -/
def report (d : TableDiff) : String :=
  if d.isValid then "Schema valid"
  else
    Text.join "\n" ("Database does not match its definition:"
      :: part "Missing tables" d.missing ++ part "Tables not in definition" d.extra)

end TableDiff

/-- One spelling for each name in lower case: the last one. -/
def spellings (names : List String) : List String :=
  match names with
  | [] => []
  | name :: rest =>
    if rest.any (Text.sameName name) then spellings rest else name :: spellings rest

/-- The spellings of the first names that are no spelling of a second name, in order. -/
def without (names others : List String) : List String :=
  ((spellings names).filter fun name => !others.any (Text.sameName name)).mergeSort
    fun a b => decide (a ≤ b)

/-- The comparison of live names with a definition. -/
def tables (live : List String) (db : Database) : TableDiff :=
  let declared := db.tables.map (·.name)
  ⟨without declared live, without live declared⟩

end Tablekeep.Check
