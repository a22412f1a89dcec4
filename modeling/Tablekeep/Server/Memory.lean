import Tablekeep.Server.Address
import Tablekeep.Server.Network

/-!
# A server in memory

Databases that are lists of tables, which are lists of rows. The server knows the database from the
address, and answers what it is asked for; statements that are carried out change nothing. It can be
told to refuse connections and to reject statements.
-/

namespace Tablekeep.Server

/-- A server that holds its databases in memory. -/
structure Memory where
  databases : List (String × List (String × List Row))
  /-- The list of databases that is shown, if it is not the true one. -/
  shown : Option (List Value)
  /-- What happens to the next connections: they are admitted, or refused with a text. -/
  refusals : List (Option String)
  /-- Statements in which one of these texts stands are rejected. -/
  rejected : List String
  deriving DecidableEq, Repr

namespace Memory

/-- A client wants to connect. -/
def accept (m : Memory) : Option String × Memory :=
  match m.refusals with
  | [] => (none, m)
  | refusal :: rest => (refusal, { m with refusals := rest })

/-- The tables of the database in an address. -/
def tablesAt (m : Memory) (url : String) : List (String × List Row) :=
  match Address.ofText url with
  | .error _ => []
  | .ok a => (a.database.bind fun name => m.databases.lookup name).getD []

/-- The names of the columns of the first row. -/
def firstColumns : List Row → List String
  | [] => []
  | row :: _ => row.map (·.name)

/-- The cell of a row in a column; null if there is none. -/
def cellIn (row : Row) (column : String) : Cell :=
  ⟨column, ((row.reverse.find? (·.name == column)).map (·.value)).getD .null⟩

/-- The rows that are asked for. -/
def select (m : Memory) (url : String) (r : RowRequest) : List Row :=
  let rows := ((m.tablesAt url).lookup r.table).getD []
  let columns :=
    match r.columns with
    | none => firstColumns rows
    | some [] => firstColumns rows
    | some columns => columns
  let wanted :=
    match r.limit with
    | none => rows
    | some n => rows.take n.toNat
  wanted.map fun row => columns.map (cellIn row)

/-- The answer to a statement that is not rejected. -/
def reply {α : Type} (m : Memory) (url : String) : Statement α → α
  | .databases => m.shown.getD (m.databases.map fun d => .text d.1)
  | .tables => (m.tablesAt url).map fun t => .text t.1
  | .probe => ()
  | .select request => m.select url request
  | .run _ => ()

/-- Some of the texts stands in the statement. -/
def rejects (m : Memory) (text : String) : Bool :=
  m.rejected.any (Text.contains text)

/-- The answer to a statement. -/
def answer {α : Type} (m : Memory) (url text : String) (s : Statement α) :
    Except String α × Memory :=
  if m.rejects text then (.error ("Server rejected: " ++ text), m) else (.ok (m.reply url s), m)

/-- The server with another content of a database. -/
def replace (m : Memory) (database : String) (tables : List (String × List Row)) : Memory :=
  if (m.databases.lookup database).isSome then
    { m with
      databases := m.databases.map fun d => if d.1 = database then (database, tables) else d }
  else { m with databases := m.databases ++ [(database, tables)] }

end Memory

instance : Server Memory where
  accept m _ := m.accept
  answer m url text s := m.answer url text s

end Tablekeep.Server
