import Tablekeep.Text.Blank
import Tablekeep.Text.Digits

/-!
# What can be wrong with a definition

A definition is refused at its first fault. The report says what the fault is, and where there is a
statement to blame it holds the statement and its line.
-/

namespace Tablekeep

/-- The first fault of a definition. -/
inductive DefinitionFault where
  /-- There is no statement at all. -/
  | noDatabase
  /-- The first statement declares no database. -/
  | databaseExpected
  /-- The database statement has too few or too many words. -/
  | databaseWords
  /-- A statement between tables opens no table. -/
  | tableExpected
  /-- The table statement has too few or too many words. -/
  | tableWords
  | duplicateTable (table : String)
  /-- A single word inside a table that does not close it. -/
  | loneWord
  | notWithoutNull
  | foreignKeyMissing
  | unknownModifier (word : String)
  | identityIndex
  | identityNullable
  | identityForeignKey
  | blobKey (column : String)
  | duplicateColumn (table column : String)
  | secondIdentity (table : String)
  | noColumns (table : String)
  /-- The text ends inside a table. -/
  | noEnd (table : String)
  | fileMissing (path : String)
  deriving DecidableEq, Repr

namespace DefinitionFault

/-- The three groups of faults: no file, words out of place, and declarations that do not go
together. -/
inductive Group where
  | fileMissing
  | wording
  | invariant
  deriving DecidableEq, Repr

/-- The group of a fault. -/
def group : DefinitionFault → Group
  | duplicateTable _ | identityIndex | identityNullable | identityForeignKey | blobKey _
  | duplicateColumn _ _ | secondIdentity _ => .invariant
  | fileMissing _ => .fileMissing
  | _ => .wording

/-- The wording of a fault in the definition called `source`. -/
def message (source : String) : DefinitionFault → String
  | noDatabase => "Missing DATABASE statement in " ++ source
  | databaseExpected => "Missing DATABASE statement in first line of " ++ source
  | databaseWords =>
    "DATABASE statement in " ++ source ++ " either missing database name or has too many values"
  | tableExpected => "Missing TABLE statement in " ++ source
  | tableWords =>
    "TABLE statement in " ++ source ++ " either missing table name or has too many values"
  | duplicateTable table => "Duplicate table " ++ table ++ " in " ++ source
  | loneWord =>
    "Table definition entry with just one word, and it isn't END, in " ++ source
  | notWithoutNull => "NOT on its own without NULL in " ++ source
  | foreignKeyMissing => "Missing foreign key after FKEY in " ++ source
  | unknownModifier word => "Illegal column modifier " ++ word ++ " in " ++ source
  | identityIndex => "Identity column cannot also be an Index in " ++ source
  | identityNullable => "Identity column cannot be nullable in " ++ source
  | identityForeignKey => "Identity column cannot also be a foreign key in " ++ source
  | blobKey column => "BLOB column " ++ column ++ " cannot be a key or an index in " ++ source
  | duplicateColumn table column =>
    "Duplicate column " ++ column ++ " in table " ++ table ++ " in " ++ source
  | secondIdentity table =>
    "Table " ++ table ++ " has more than one identity column in " ++ source
  | noColumns table => "TABLE " ++ table ++ " in " ++ source ++ " has no columns"
  | noEnd table => "TABLE " ++ table ++ " in " ++ source ++ " has no END statement"
  | fileMissing path => "Definition file not found: " ++ path

end DefinitionFault

/-- A fault and its place. -/
structure DefinitionError where
  fault : DefinitionFault
  /-- What the definition is called. -/
  source : String
  /-- The line of the statement that is to blame; line zero counts as no line. -/
  line : Option Int
  /-- The statement that is to blame, without blanks around it. -/
  statement : Option String
  deriving DecidableEq, Repr

namespace DefinitionError

/-- What is wrong. -/
def message (e : DefinitionError) : String :=
  e.fault.message e.source

/-- What is wrong, and the line if there is one. -/
def display (e : DefinitionError) : String :=
  match e.line with
  | some n => e.message ++ " (line " ++ Text.decimalInt n ++ ")"
  | none => e.message

/-- What is wrong, and the statement if there is one. -/
def logText (e : DefinitionError) : String :=
  match e.statement with
  | some s => e.message ++ ". Statement is: " ++ s
  | none => e.message

/-- The report that there is no file at the path. -/
def ofMissingFile (path : String) : DefinitionError :=
  ⟨.fileMissing path, "", none, none⟩

end DefinitionError

end Tablekeep
