import Tablekeep.Check.Columns
import Tablekeep.Check.Tables
import Tablekeep.Command.Failure
import Tablekeep.Command.Invocation
import Tablekeep.Definition.Plural
import Tablekeep.Digest.Report
import Tablekeep.Repository.Backup
import Tablekeep.Repository.Loading
import Tablekeep.Repository.Restore

/-!
# Actions on a database

An action gives whether it did what was asked for, and tells the user. Rows and tables are only
touched when the live tables are those of the definition. Every connection is closed when the action
that opened it is over, whatever came of it.
-/

namespace Tablekeep.Command

open Server Repository

variable {σ α : Type}

/-- Work of a command with servers of the kind `σ`. -/
abbrev Job (σ α : Type) := Work (Network σ) Failure α

/-- What a command knows besides the files and the servers. -/
structure Surroundings where
  environment : Config.Environment
  today : Calendar.Date

/-! ## Connections -/

/-- Tells the user something in a line with style marks. Printing is taken never to fail, also where
a name in the line holds something that looks like the end of a style which was not begun. -/
def say (text : String) : Job σ Unit :=
  Work.tell (.line text)

/-- The server with the name. -/
def serverNamed (s : Config.Settings) (name : String) : Job σ Config.Profile :=
  Work.ofExcept .server (s.server name)

/-- The name of a database in a record; an empty one counts as none. -/
def shownDatabase : Option String → String
  | none => "(default)"
  | some name => if name.isEmpty then "(default)" else name

/-- Opens a connection to a database of a server. -/
def connect (s : Config.Settings) (server : String) (database : Option String)
    (addressing : Addressing := .standard) : Job σ Connection := do
  let profile ← serverNamed s server
  let url ← Work.ofExcept .address (profile.databaseUrl database addressing)
  Work.log .debug ("Connecting to " ++ server ++ " database " ++ shownDatabase database)
  Work.ask (Connection.connect (withDriver url) profile.dialect)

/-- Uses a connection and closes it. -/
def onConnection (c : Connection) (w : Job σ α) : Job σ α :=
  Work.ensuring w (Work.ask c.close)

/-- Asks something on a connection. -/
def asked (w : StateM (Network σ) (Except ServerError α)) : Job σ α := do
  Work.ofExcept .connection (← Work.ask w)

variable [Server σ]

/-! ## Creating and dropping -/

/-- Carries out statements, one after another. -/
def executeAll (c : Connection) : List String → Job σ Unit
  | [] => return ()
  | text :: texts => do
    asked (c.execute text)
    executeAll c texts

/-- Creates an empty database unless it is there. -/
def createEmpty (c : Connection) (name : String) : Job σ Bool := do
  if (← asked c.databases).contains name then
    say ("[red]Cannot create database " ++ name ++ " - it is already there![/red]")
    return false
  else
    asked (c.execute ("CREATE DATABASE " ++ name))
    return true

/-- Makes sure that there is a database to create tables in. On one dialect it has to be there
already. -/
def provide (s : Config.Settings) (server : String) (d : Dialect) (name : String) :
    Job σ Bool := do
  match d with
  | .azure => return true
  | .mysql =>
    let c ← connect s server none
    onConnection c (createEmpty c name)

/-- Creates a database and its tables. -/
def create (s : Config.Settings) (server : String) (db : Database) : Job σ Bool := do
  let profile ← serverNamed s server
  if !(← provide s server profile.dialect db.name) then return false
  let c ← connect s server (some db.name)
  onConnection c do
    executeAll c (← Work.ofExcept .script (db.statements profile.dialect))
  say ("[bold green]v[/bold green] Created database [cyan]" ++ db.name ++ "[/cyan] with "
    ++ Text.decimal db.tables.length ++ " tables")
  return true

/-- Drops a database, which only one dialect allows. -/
def drop (s : Config.Settings) (server : String) (db : Database) : Job σ Bool := do
  let profile ← serverNamed s server
  if profile.dialect != .mysql then
    say "[red]Can only use drop action on MySQL databases![/red]"
    return false
  let c ← connect s server none
  onConnection c (asked (c.execute ("DROP DATABASE " ++ db.name)))
  say ("[bold green]v[/bold green] Dropped database [cyan]" ++ db.name ++ "[/cyan]")
  return true

/-! ## Actions on live tables -/

/-- Backs the database up. -/
def backUp (around : Surroundings) (s : Config.Settings) (db : Database) (c : Connection) :
    Job σ Bool := do
  let plan : BackupPlan :=
    ⟨db, Files.Path.ofText s.repository, around.today, true, Plural.ofName, none⟩
  let path ← Work.rename .repository (plan.run c.client)
  say ("[bold green]v[/bold green] Backed up [cyan]" ++ db.name ++ "[/cyan] to " ++ path.toText)
  return true

/-- Restores a backup of the database. -/
def restore (s : Config.Settings) (db : Database) (backup : Option String) (c : Connection) :
    Job σ Bool := do
  let plan : RestorePlan :=
    ⟨db, Files.Path.ofText s.repository, backup, c.dialect, Plural.ofName, none⟩
  let restored ← Work.rename .repository (plan.run c.client)
  say ("[bold green]v[/bold green] Restored " ++ Text.decimal restored.total ++ " rows into [cyan]"
    ++ db.name ++ "[/cyan] from " ++ restored.backup.toText)
  return true

/-- A row of the table of reports. -/
def reportRow (r : Digest.TableReport) : List String :=
  [r.table, Text.decimal r.rows, r.digest.getD "[dim]empty[/dim]"]

/-- Reports on the tables of the database. -/
def report (db : Database) (c : Connection) : Job σ Bool := do
  let reports ← Work.ofExcept Failure.ofSource (← Work.ask (Digest.report c.rows db))
  Work.tell (.table ("Report for database " ++ db.name) ["Table", "Rows", "Hash"]
    (reports.map reportRow))
  return true

/-- Tells the user several things between two style marks. -/
def sayAll (style : String) : List String → Job σ Unit
  | [] => return ()
  | text :: texts => do
    say ("[" ++ style ++ "]" ++ text ++ "[/" ++ style ++ "]")
    sayAll style texts

/-- Checks the columns of the database. -/
def check (db : Database) (c : Connection) : Job σ Bool := do
  say ("Checking database [cyan]" ++ db.name ++ "[/cyan]")
  let result ← asked (Check.database c.rows db)
  sayAll "dim" result.notices
  sayAll "yellow" result.warnings
  sayAll (if result.isValid then "green" else "yellow") [result.summary]
  return true

/-- The live tables are those of the definition; if they are not, the user is told. -/
def tablesMatch (db : Database) (c : Connection) : Job σ Bool := do
  let live ← asked c.tables
  if live.isEmpty then
    say ("[red]Database " ++ db.name ++ " does not exist or has no tables.[/red]")
    return false
  let diff := Check.tables live db
  if !diff.isValid then
    say ("[red]" ++ diff.report ++ "[/red]")
  return diff.isValid

/-- Does something with the live tables on a connection of its own, if they are those of the
definition. -/
def onLiveTables (s : Config.Settings) (server : String) (db : Database)
    (body : Connection → Job σ Bool) : Job σ Bool := do
  let profile ← serverNamed s server
  let c ← connect s server (some db.name)
  onConnection c do
    if profile.dialect == .azure then
      Work.rename .connection (c.waitUntilAvailable usualAttempts usualDelay)
    if !(← tablesMatch db c) then return false
    body c

/-- An action on a database with a definition. -/
def act (around : Surroundings) (s : Config.Settings) (server : String) (db : Database)
    (backup : Option String) (action : Action) : Job σ Bool :=
  match action with
  | .create => create s server db
  | .drop => drop s server db
  | .backup => onLiveTables s server db (backUp around s db)
  | .restore => onLiveTables s server db (restore s db backup)
  | .report => onLiveTables s server db (report db)
  | .check => onLiveTables s server db (check db)

/-- The definition of a database in the repository; if it is no good, the user is told. -/
def definitionFor (s : Config.Settings) (action : Action) (name : String) :
    Job σ (Option Database) := do
  let path := definitionPath (Files.Path.ofText s.repository) name
  match ← Work.rename .repository (loadDefinition path) with
  | .ok db => return some db
  | .error e =>
    say ("[red]Cannot do " ++ action.name ++ " on database " ++ name ++ ": " ++ e.display
      ++ "[/red]")
    return none

/-- An action on the database with the name. Its failures are told and do not spread. -/
def actOn (around : Surroundings) (s : Config.Settings) (server : String) (action : Action)
    (backup : Option String) (name : String) : Job σ Bool := do
  match ← definitionFor s action name with
  | none => return false
  | some db =>
    match ← Work.attempt (act around s server db backup action) with
    | .ok done => return done
    | .error e =>
      Work.log .debug (action.name ++ " failed for " ++ db.name)
      say ("[bold red]x[/bold red] " ++ action.name ++ " failed for database [cyan]" ++ db.name
        ++ "[/cyan]: " ++ e.message)
      return false

end Tablekeep.Command
