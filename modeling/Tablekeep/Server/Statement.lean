import Tablekeep.Cell.Value
import Tablekeep.Script.Dialect
import Tablekeep.Server.Source

/-!
# What is sent to a server

A statement is known by what it asks for, and its type says what the answer is. How it is written
depends on the dialect: the two dialects limit rows and list their catalogs in different words.
-/

namespace Tablekeep.Server

/-- A statement with the type of its answer. -/
inductive Statement : Type → Type where
  /-- The names of the databases of the server. -/
  | databases : Statement (List Value)
  /-- The names of the tables of the database. -/
  | tables : Statement (List Value)
  /-- Asks for nothing but an answer. -/
  | probe : Statement Unit
  | select (request : RowRequest) : Statement (List Row)
  /-- A statement to be carried out. -/
  | run (text : String) : Statement Unit

/-- How a statement is sent. -/
inductive Channel where
  | query
  /-- The rows come one by one. -/
  | stream
  /-- The text is not looked at on the way. -/
  | direct
  deriving DecidableEq, Repr

/-- The columns that are asked for; all if none is named. -/
def selectList : Option (List String) → String
  | none => "*"
  | some [] => "*"
  | some columns => Text.join ", " columns

/-- The text of a request for rows. -/
def selectText (d : Dialect) (r : RowRequest) : String :=
  match r.limit, d with
  | none, _ => "SELECT " ++ selectList r.columns ++ " FROM " ++ r.table ++ ";"
  | some n, .azure =>
    "SELECT TOP " ++ Text.decimalInt n ++ " " ++ selectList r.columns ++ " FROM " ++ r.table ++ ";"
  | some n, .mysql =>
    "SELECT " ++ selectList r.columns ++ " FROM " ++ r.table ++ " LIMIT " ++ Text.decimalInt n
      ++ ";"

/-- A statement to be carried out without blanks around it and with a semicolon at its end. -/
def ended (text : String) : String :=
  let text := Text.trim text
  if Text.endsWith text ";" then text else text ++ ";"

namespace Statement

variable {α : Type}

/-- The text of a statement. -/
def text (d : Dialect) : Statement α → String
  | databases =>
    match d with
    | .mysql => "SHOW DATABASES"
    | .azure => "SELECT name FROM sys.databases"
  | tables =>
    match d with
    | .mysql => "SHOW TABLES"
    | .azure =>
      "SELECT DISTINCT TABLE_NAME FROM INFORMATION_SCHEMA.TABLES WHERE TABLE_TYPE='BASE TABLE'"
  | probe => "SELECT 1"
  | select request => selectText d request
  | run sql => ended sql

/-- How a statement is sent: only one dialect can give rows one by one. -/
def channel (d : Dialect) : Statement α → Channel
  | select _ =>
    match d with
    | .mysql => .stream
    | .azure => .query
  | run _ => .direct
  | _ => .query

end Statement

end Tablekeep.Server
