import Tablekeep.Server.Client
import Tablekeep.Server.Statement

/-!
# Connections

A `Server` is anything that admits clients and answers statements. Everything that passes between it
and its clients is kept in a trace, with the number of the connection that it passed on, so that it
can be said which connections were opened, used and closed, and in which order.
-/

namespace Tablekeep

open Server in
/-- The states of a server that can be connected to. -/
class Server (σ : Type) where
  /-- A client wants to connect to an address. The text says why it is refused. -/
  accept : σ → (url : String) → Option String × σ
  /-- A client that has been admitted sends a statement with its text. -/
  answer : {α : Type} → σ → (url text : String) → Statement α → Except String α × σ

namespace Server

/-- Something that passed between clients and servers. -/
inductive Event where
  | opened (connection : Nat) (url : String)
  | refused (connection : Nat) (url text : String)
  | sent (connection : Nat) (url : String) (channel : Channel) (text : String)
  | closed (connection : Nat) (url : String)
  /-- A client waited before it tried again. -/
  | waited (seconds : Rat)
  deriving DecidableEq

/-- A server and what has passed between it and its clients. -/
structure Network (σ : Type) where
  server : σ
  /-- How many connections have been opened. -/
  opened : Nat
  trace : List Event

/-- A connection to one database. -/
structure Connection where
  number : Nat
  url : String
  dialect : Dialect
  deriving DecidableEq, Repr

/-! ## Pools -/

/-- A setting of the pool that connections are taken from. -/
inductive PoolSetting where
  | number (n : Nat)
  | flag (b : Bool)
  deriving DecidableEq, Repr

/-- The settings that are used where no others are given: a few connections, which are looked at
before they are used and given up after some minutes. -/
def poolOptions : List (String × PoolSetting) :=
  [("pool_size", .number 5), ("max_overflow", .number 10), ("pool_pre_ping", .flag true),
    ("pool_recycle", .number 300), ("echo", .flag false)]

/-- Settings of which those that are given take the place, with what else is given after them. -/
def overridden {β : Type} (settings given : List (String × β)) : List (String × β) :=
  settings.map (fun s => (s.1, (given.lookup s.1).getD s.2))
    ++ given.filter fun g => (settings.lookup g.1).isNone

/-- The settings of a pool, where some are given. -/
def poolSettings (given : List (String × PoolSetting)) : List (String × PoolSetting) :=
  overridden poolOptions given

/-! ## Traces -/

variable {σ α : Type}

/-- Adds to the trace. -/
def record (e : Event) : StateM (Network σ) Unit :=
  modify fun n => { n with trace := n.trace ++ [e] }

namespace Connection

/-! ## Opening, sending, closing -/

/-- Opens a connection. The server does not hear of it before something is sent. -/
def connect (url : String) (d : Dialect) : StateM (Network σ) Connection := do
  let number := (← get).opened
  modify fun n => { n with opened := n.opened + 1 }
  record (.opened number url)
  return ⟨number, url, d⟩

/-- Closes a connection. -/
def close (c : Connection) : StateM (Network σ) Unit :=
  record (.closed c.number c.url)

/-- Sends a statement to a server that admits the client. -/
def deliver [Server σ] (c : Connection) (s : Statement α) :
    StateM (Network σ) (Except ServerError α) := do
  let text := s.text c.dialect
  record (.sent c.number c.url (s.channel c.dialect) text)
  let n ← get
  let (answer, server) := Server.answer n.server c.url text s
  set { n with server := server }
  return answer.mapError .rejected

/-- Sends a statement. -/
def send [Server σ] (c : Connection) (s : Statement α) :
    StateM (Network σ) (Except ServerError α) := do
  let n ← get
  let (refusal, server) := Server.accept n.server c.url
  set { n with server := server }
  match refusal with
  | some text =>
    record (.refused c.number c.url text)
    return .error (.refused text)
  | none => c.deliver s

/-! ## Requests -/

/-- The databases that a server keeps for itself. -/
def systemDatabases : List String :=
  ["information_schema", "master", "model", "msdb", "mysql", "performance_schema", "sys", "tempdb"]

/-- The names among the values of a catalog. -/
def namesOf (values : List Value) : List String :=
  (values.filter (· != .null)).map Value.display

/-- The names of the databases but the server's own. -/
def databases [Server σ] (c : Connection) :
    StateM (Network σ) (Except ServerError (List String)) := do
  let answer ← c.send .databases
  return answer.map fun values =>
    (namesOf values).filter fun name => !systemDatabases.contains (Text.lower name)

/-- The names of the tables. -/
def tables [Server σ] (c : Connection) :
    StateM (Network σ) (Except ServerError (List String)) := do
  let answer ← c.send .tables
  return answer.map namesOf

/-- The rows of a table. -/
def rows [Server σ] (c : Connection) : Source (StateM (Network σ)) ServerError :=
  fun request => c.send (.select request)

/-- The table has a row. -/
def hasContent [Server σ] (c : Connection) (table : String) :
    StateM (Network σ) (Except ServerError Bool) := do
  let answer ← c.rows ⟨table, none, some 1⟩
  return answer.map fun rows => !rows.isEmpty

/-- Carries out a statement. -/
def execute [Server σ] (c : Connection) (text : String) :
    StateM (Network σ) (Except ServerError Unit) :=
  c.send (.run text)

/-- Finds out whether the server answers. -/
def probe [Server σ] (c : Connection) : StateM (Network σ) (Except ServerError Unit) :=
  c.send .probe

/-- The connection as a client. -/
def client [Server σ] (c : Connection) : Client (Network σ) where
  rows := c.rows
  hasContent := c.hasContent
  execute := c.execute

end Connection

end Server

end Tablekeep
