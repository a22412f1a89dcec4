import Tablekeep.Definition.Basic
import Tablekeep.Definition.Error

/-!
# Reading a definition

A definition is read a line at a time, one statement a line:

    DATABASE shop
    TABLE customer
      id    INT           IDENTITY
      name  VARCHAR(100)  NOT NULL
    END

`Draft` is the definition read so far. Its `Progress` has three forms, so that there is a table
under construction exactly while its columns are being read, and no table before the database has a
name. A statement that is refused leaves the progress as it was; only the place remembered for
reports moves on. A `Parser` has neither built in: it keeps the same in fields that are set one
after another, and is shown to come to the same.

Keywords are compared in upper case, so any spelling of them will do, but what they are followed by
is kept as it stands.
-/

namespace Tablekeep

/-! ## Columns -/

/-- What may follow the type of a column. -/
inductive Modifier where
  | identity
  | index
  | null
  | notNull
  | foreignKey (target : String)
  deriving DecidableEq, Repr

namespace Modifier

/-- The modifiers that the words spell. The word after `FKEY` is taken whatever it is, and `NOT` is
half a modifier. -/
def ofWords : List String → Except DefinitionFault (List Modifier)
  | [] => .ok []
  | w :: ws =>
    match Text.upper w with
    | "IDENTITY" => (ofWords ws).map (identity :: ·)
    | "INDEX" => (ofWords ws).map (index :: ·)
    | "NULL" => (ofWords ws).map (null :: ·)
    | "NOT" =>
      match ws with
      | [] => .error .notWithoutNull
      | v :: vs =>
        if Text.upper v = "NULL" then (ofWords vs).map (notNull :: ·) else .error .notWithoutNull
    | "FKEY" =>
      match ws with
      | [] => .error .foreignKeyMissing
      | v :: vs => (ofWords vs).map (foreignKey v :: ·)
    | _ => .error (.unknownModifier w)

/-- The column after one more modifier. -/
def apply (c : Column) : Modifier → Column
  | identity => { c with isIdentity := true, isNullable := false }
  | index => { c with isIndex := true }
  | null => { c with isNullable := true }
  | notNull => { c with isNullable := false }
  | foreignKey target => { c with foreignKey := some target }

end Modifier

namespace Column

/-- A column with a name and a type and no modifiers. -/
def plain (name declared : String) : Column where
  name := name
  declared := declared
  kind := .ofType declared
  isIdentity := false
  isNullable := true
  isIndex := false
  foreignKey := none

/-- The first reason why the properties of a column do not go together. -/
def fault? (c : Column) : Option DefinitionFault :=
  if c.isIdentity && c.isIndex then some .identityIndex
  else if c.isIdentity && c.isNullable then some .identityNullable
  else if c.isIdentity && c.foreignKey.isSome then some .identityForeignKey
  else if c.isBlob && (c.isIdentity || c.isIndex || c.foreignKey.isSome) then
    some (.blobKey c.name)
  else none

/-- The column that a name, a type and the words after them declare. -/
def ofWords (name declared : String) (rest : List String) : Except DefinitionFault Column := do
  let modifiers ← Modifier.ofWords rest
  let c := modifiers.foldl Modifier.apply (plain name declared)
  match c.fault? with
  | some fault => .error fault
  | none => .ok c

end Column

/-! ## The statements of a definition -/

/-- How far a definition has been read. -/
inductive Progress where
  /-- Nothing is declared yet. -/
  | start
  /-- A table may follow, or the end. -/
  | between (database : String) (tables : List Table)
  /-- The columns of `table` are being read. -/
  | inside (database : String) (tables : List Table) (table : String) (columns : List Column)
  deriving DecidableEq, Repr

namespace Progress

/-- Some table has the name, in any letter case. -/
def hasTable (tables : List Table) (name : String) : Bool :=
  tables.any fun t => Text.sameName t.name name

/-- Some column has the name, in any letter case. -/
def hasColumn (columns : List Column) (name : String) : Bool :=
  columns.any fun c => Text.sameName c.name name

/-- The columns of a table with one more, unless its name or its identity is there already. -/
def addColumn (table : String) (columns : List Column) (c : Column) :
    Except DefinitionFault (List Column) :=
  if hasColumn columns c.name then .error (.duplicateColumn table c.name)
  else if c.isIdentity && columns.any (·.isIdentity) then .error (.secondIdentity table)
  else .ok (columns ++ [c])

/-- The progress after the statement with the given words. -/
def step (words : List String) : Progress → Except DefinitionFault Progress
  | start =>
    match words with
    | [] => .ok start
    | w :: ws =>
      if Text.upper w = "DATABASE" then
        match ws with
        | [name] => .ok (between name [])
        | _ => .error .databaseWords
      else .error .databaseExpected
  | between database tables =>
    match words with
    | [] => .ok (between database tables)
    | w :: ws =>
      if Text.upper w = "TABLE" then
        match ws with
        | [name] =>
          if hasTable tables name then .error (.duplicateTable name)
          else .ok (inside database tables name [])
        | _ => .error .tableWords
      else .error .tableExpected
  | inside database tables table columns =>
    match words with
    | [] => .ok (inside database tables table columns)
    | [w] =>
      if Text.upper w = "END" then
        if columns.isEmpty then .error (.noColumns table)
        else .ok (between database (tables ++ [⟨table, columns⟩]))
      else .error .loneWord
    | name :: declared :: rest => do
      let c ← Column.ofWords name declared rest
      let columns ← addColumn table columns c
      return inside database tables table columns

/-- The database that has been read, if nothing is missing. -/
def close : Progress → Except DefinitionFault Database
  | start => .error .noDatabase
  | between database tables => .ok ⟨database, tables⟩
  | inside _ _ table _ => .error (.noEnd table)

end Progress

/-! ## Drafts -/

/-- A definition of which some lines have been read. -/
structure Draft where
  /-- What the definition is called in reports. -/
  source : String
  progress : Progress
  /-- The line of the last statement; zero before the first. -/
  line : Int
  /-- The last statement, without blanks around it; empty before the first. -/
  statement : String
  deriving DecidableEq, Repr

namespace Draft

/-- Nothing has been read. -/
def empty (source : String) : Draft :=
  ⟨source, .start, 0, ""⟩

/-- The report of a fault at the last statement. -/
def report (d : Draft) (fault : DefinitionFault) : DefinitionError :=
  ⟨fault, d.source, if d.line = 0 then none else some d.line,
    if d.statement.isEmpty then none else some d.statement⟩

/-- The draft after one more line, and the report if the line was refused. A blank line is no
statement. -/
def feed (d : Draft) (text : String) (line : Int) : Draft × Option DefinitionError :=
  match Text.words text with
  | [] => (d, none)
  | w :: ws =>
    let here := { d with line := line, statement := Text.trim text }
    match d.progress.step (w :: ws) with
    | .ok progress => ({ here with progress := progress }, none)
    | .error fault => (here, some (here.report fault))

/-- The database, or the report of what is missing at the end. -/
def finish (d : Draft) : Except DefinitionError Database :=
  match d.progress.close with
  | .ok database => .ok database
  | .error fault => .error (d.report fault)

/-- The draft after the lines, numbered from `line` on, up to the first that is refused. -/
def feedLines (d : Draft) (line : Int) : List String → Except DefinitionError Draft
  | [] => .ok d
  | text :: rest =>
    match d.feed text line with
    | (d, none) => d.feedLines (line + 1) rest
    | (_, some e) => .error e

end Draft

/-- The database that a text defines, or the first thing wrong with it. -/
def Database.ofText (source text : String) : Except DefinitionError Database := do
  let d ← (Draft.empty source).feedLines 1 (Text.lines text)
  d.finish

end Tablekeep
