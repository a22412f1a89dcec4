import Tablekeep.Definition.Basic
import Tablekeep.Script.Dialect

/-!
# Scripts that create a database

The script of a table is the statement that creates it and the statements that belong to it: what is
dropped before, the foreign keys where they stand apart from the table, and the indexes. The script
of a database is the scripts of its tables in order.

Large objects are never created. A table that has nothing else cannot be created, and then neither
can the database.
-/

namespace Tablekeep

/-! ## The script of a table -/

/-- The statements of one table. -/
structure TableScript where
  table : String
  /-- What removes an earlier table of the name. -/
  drop : Option String
  create : String
  /-- Foreign keys that are added when the table is there. -/
  constraints : List String
  indexes : List String
  deriving DecidableEq, Repr

/-- Why a script cannot be written. -/
inductive ScriptError where
  /-- The table has no column that can be created. -/
  | nothingToCreate (table : String)
  deriving DecidableEq, Repr

/-- The wording of the error. -/
def ScriptError.message : ScriptError → String
  | nothingToCreate table =>
    "Table " ++ table ++ " has no columns that can be created (all BLOB)"

namespace TableScript

/-- The statements in the order in which they are executed. -/
def statements (s : TableScript) : List String :=
  s.drop.toList ++ s.create :: s.constraints ++ s.indexes

/-- The declaration of a column inside the statement that creates its table. -/
def columnClause (d : Dialect) (c : Column) : String :=
  c.name ++ " " ++ c.declared ++ (if c.isNullable then " NULL" else " NOT NULL")
    ++ (if c.isIdentity then
          match d with
          | .mysql => " AUTO_INCREMENT"
          | .azure => " IDENTITY(1,1)"
        else "")

/-! ## MySQL -/

/-- The primary key of a table with an identity. -/
def mysqlKey (t : Table) : List String :=
  t.identity?.toList.map fun c =>
    "CONSTRAINT PK_" ++ t.name ++ " PRIMARY KEY (" ++ c.name ++ ")"

/-- The foreign key of a column. -/
def mysqlForeignKey (t : Table) (c : Column) : Option String :=
  c.foreignKey.map fun target =>
    "CONSTRAINT FK_" ++ t.name ++ "_" ++ c.name ++ " FOREIGN KEY (" ++ c.name
      ++ ") REFERENCES " ++ target

/-- The index of a column. -/
def mysqlIndex (t : Table) (c : Column) : Option String :=
  if c.isIndex then
    some ("CREATE INDEX IX_" ++ t.name ++ "_" ++ c.name ++ " ON " ++ t.name ++ "(" ++ c.name
      ++ ");")
  else none

/-- The script with the keys inside the table. -/
def mysql (t : Table) : TableScript where
  table := t.name
  drop := some ("DROP TABLE IF EXISTS " ++ t.name ++ ";")
  create :=
    "CREATE TABLE " ++ t.name ++ " (\n"
      ++ Text.join ",\n" (t.selected.map (columnClause .mysql) ++ mysqlKey t
          ++ t.selected.filterMap (mysqlForeignKey t))
      ++ ");"
  constraints := []
  indexes := t.selected.filterMap (mysqlIndex t)

/-! ## Azure -/

/-- How the primary key is stored. -/
def azureKeyOptions : String :=
  "    WITH (PAD_INDEX  = OFF, STATISTICS_NORECOMPUTE  = OFF,\n"
    ++ "    IGNORE_DUP_KEY = OFF, ALLOW_ROW_LOCKS  = ON, ALLOW_PAGE_LOCKS  = ON) ON [PRIMARY]"

/-- How an index is stored. -/
def azureIndexOptions : String :=
  "       WITH (PAD_INDEX  = OFF, STATISTICS_NORECOMPUTE  = OFF, SORT_IN_TEMPDB = OFF,\n"
    ++ "       IGNORE_DUP_KEY = OFF, DROP_EXISTING = OFF, ONLINE = OFF, ALLOW_ROW_LOCKS  = ON,\n"
    ++ "       ALLOW_PAGE_LOCKS  = ON) ON [PRIMARY]"

/-- The primary key of a table with an identity. -/
def azureKey (t : Table) : List String :=
  t.identity?.toList.map fun c =>
    "CONSTRAINT [PK_" ++ t.name ++ "] PRIMARY KEY CLUSTERED ( [" ++ c.name ++ "] ASC )\n"
      ++ azureKeyOptions

/-- The two statements that add the foreign key of a column and switch it on. -/
def azureForeignKey (t : Table) (c : Column) : List String :=
  match c.foreignKey with
  | none => []
  | some target =>
    let key := "FK_" ++ t.name ++ "_" ++ c.name
    ["ALTER TABLE [dbo].[" ++ t.name ++ "] WITH CHECK\nADD CONSTRAINT [" ++ key
        ++ "]\nFOREIGN KEY ([" ++ c.name ++ "]) REFERENCES " ++ target ++ ";",
      "ALTER TABLE [dbo].[" ++ t.name ++ "] CHECK\nCONSTRAINT [" ++ key ++ "];"]

/-- The index of a column; the primary key has the clustered one. -/
def azureIndex (t : Table) (c : Column) : Option String :=
  if c.isIndex then
    some ("CREATE NONCLUSTERED INDEX [IX_" ++ t.name ++ "_" ++ c.name ++ "]\n       ON [dbo].["
      ++ t.name ++ "](" ++ c.name ++ " ASC)\n" ++ azureIndexOptions ++ ";")
  else none

/-- The script with the foreign keys after the table; creating a table that is there fails. -/
def azure (t : Table) : TableScript where
  table := t.name
  drop := none
  create :=
    "CREATE TABLE [dbo].[" ++ t.name ++ "](\n"
      ++ Text.join ",\n" (t.selected.map (columnClause .azure) ++ azureKey t)
      ++ "\n) ON [PRIMARY];"
  constraints := t.selected.flatMap (azureForeignKey t)
  indexes := t.selected.filterMap (azureIndex t)

/-- The script of a table, unless it has no column to create. -/
def ofTable (d : Dialect) (t : Table) : Except ScriptError TableScript :=
  if t.selected.isEmpty then .error (.nothingToCreate t.name)
  else
    match d with
    | .mysql => .ok (mysql t)
    | .azure => .ok (azure t)

/-- The lines of the table in the script of its database: the dropping statement is followed by an
empty line, and so is the whole. -/
def lines (s : TableScript) : List String :=
  s.drop.toList.map (· ++ "\n") ++ s.create :: s.constraints
    ++ (if s.indexes.isEmpty then [] else [Text.join "\n" s.indexes]) ++ [""]

end TableScript

/-! ## The script of a database -/

namespace Database

/-- The scripts of the tables in order, up to the first table that has none. -/
def tableScripts (d : Dialect) (db : Database) : Except ScriptError (List TableScript) :=
  db.tables.mapM (TableScript.ofTable d)

/-- The statements that create the tables, to be sent to a server one by one. -/
def statements (d : Dialect) (db : Database) : Except ScriptError (List String) :=
  (db.tableScripts d).map fun scripts => scripts.flatMap TableScript.statements

/-- The script to be read by people: it first goes to the database. -/
def script (d : Dialect) (db : Database) : Except ScriptError String :=
  (db.tableScripts d).map fun scripts =>
    Text.join "\n" (("USE " ++ db.name ++ ";\n") :: scripts.flatMap TableScript.lines)

/-- The script in the dialect that is asked for. -/
def scriptFor (r : DialectRequest) (db : Database) : Except ScriptError String :=
  db.script r.dialect

end Database

end Tablekeep
