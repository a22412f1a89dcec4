import Tablekeep.Text.Blank
import Tablekeep.Text.Case

/-!
# Database definitions

A database is a name and its tables in order; a table is a name and its columns in order. What a
column holds is decided by its declared type, which is free text of which only a few spellings mean
anything here: `ValueKind.ofType` reads it.

Names are looked up without regard to letter case, and the first match wins. A table may also be
looked up by its plural, which is how the elements of a backup are named.
-/

namespace Tablekeep

/-! ## Kinds of values -/

/-- What the values of a column are, as far as backups, scripts and checks tell them apart. -/
inductive ValueKind where
  | integer
  | boolean
  | binary
  | timestamp
  | single
  | decimal
  | text
  deriving DecidableEq, Repr, Inhabited

namespace ValueKind

/-- The name of a kind, in upper case. -/
def name : ValueKind → String
  | integer => "INTEGER"
  | boolean => "BOOLEAN"
  | binary => "BINARY"
  | timestamp => "TIMESTAMP"
  | single => "SINGLE"
  | decimal => "DECIMAL"
  | text => "TEXT"

/-- All kinds. -/
def all : List ValueKind :=
  [integer, boolean, binary, timestamp, single, decimal, text]

/-- The kind with the given name in upper case. -/
def ofName? (s : String) : Option ValueKind :=
  all.find? fun k => k.name == s

/-- The kind of a declared type: five types by name, every type that begins with `DECIMAL`, and text
for all others. -/
def ofType (declared : String) : ValueKind :=
  let s := Text.upper declared
  if s = "INT" then integer
  else if s = "BIT" then boolean
  else if s = "BLOB" then binary
  else if s = "DATETIME" then timestamp
  else if s = "FLOAT" then single
  else if Text.beginsWith s "DECIMAL" then decimal
  else text

end ValueKind

/-! ## Columns -/

/-- A column as it is declared. -/
structure Column where
  name : String
  /-- The declared type, spelled as in the definition. -/
  declared : String
  kind : ValueKind
  isIdentity : Bool
  isNullable : Bool
  isIndex : Bool
  /-- What the column refers to, to be copied into the script as it stands. -/
  foreignKey : Option String
  deriving DecidableEq, Repr, Inhabited

namespace Column

/-- A large object: never created, backed up or restored. -/
def isBlob (c : Column) : Bool :=
  c.kind == .binary

end Column

/-! ## Tables -/

/-- A table as it is declared. -/
structure Table where
  name : String
  columns : List Column
  deriving DecidableEq, Repr, Inhabited

namespace Table

/-- Some column is the identity. -/
def hasIdentity (t : Table) : Bool :=
  t.columns.any (·.isIdentity)

/-- The first identity column. -/
def identity? (t : Table) : Option Column :=
  t.columns.find? (·.isIdentity)

/-- The columns that are created, backed up and restored: all but the large objects. -/
def selected (t : Table) : List Column :=
  t.columns.filter fun c => !c.isBlob

/-- The first column with the name, in any letter case. -/
def column? (t : Table) (name : String) : Option Column :=
  t.columns.find? fun c => Text.sameName c.name name

end Table

/-! ## Databases -/

/-- A database as it is declared. -/
structure Database where
  name : String
  tables : List Table
  deriving DecidableEq, Repr, Inhabited

namespace Database

/-- The first table with the name, in any letter case. -/
def table? (d : Database) (name : String) : Option Table :=
  d.tables.find? fun t => Text.sameName t.name name

/-- The first table whose name or whose plural is the given one, in any letter case. -/
def tableOrPlural? (d : Database) (plural : String → String) (name : String) : Option Table :=
  d.tables.find? fun t => Text.sameName t.name name || Text.sameName (plural t.name) name

end Database

end Tablekeep
