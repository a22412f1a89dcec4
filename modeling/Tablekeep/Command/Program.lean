import Tablekeep.Command.Action

/-!
# The program

A command line is read and carried out. The result is the code with which the program ends, or a
failure that nobody expected; what the user is told stands in the journal.
-/

namespace Tablekeep.Command

open Server Repository

variable {σ α : Type} [Server σ]

/-! ## Answers -/

/-- The code for success, and the one for failure. -/
def exitCode (done : Bool) : Nat :=
  if done then 0 else 1

/-- Carries on with the value of work that may fail early. The user is told of a failure that is
explained; any other spreads. -/
def orExplain (w : Job σ α) (next : α → Job σ Nat) : Job σ Nat := do
  match ← Work.attempt w with
  | .ok a => next a
  | .error e =>
    if e.isExplained then
      say ("[red]Error: " ++ e.message ++ "[/red]")
      return 1
    else Work.fail e

/-- The configuration. -/
def settings (around : Surroundings) (named : Option String) : Job σ Config.Settings := do
  Work.ofExcept .config (Config.load around.environment (← Work.files) named)

/-- The databases of a server; nothing if it does not answer, of which the user is told. -/
def databasesOn (c : Connection) : Job σ (Option (List String)) := do
  match ← Work.ask c.databases with
  | .ok names => return some names
  | .error e =>
    say ("\n[bold red]Error:[/bold red] Connection failed: " ++ e.message)
    return none

/-! ## Commands -/

/-- Shows the script for the definition in a file. -/
def showScript (file dialect : String) : Job σ Nat := do
  match ← Work.rename .repository (loadDefinition (Files.Path.ofText file)) with
  | .error e =>
    say ("[red]Error: " ++ e.display ++ "[/red]")
    return 1
  | .ok db =>
    match db.scriptFor (.named dialect) with
    | .error e =>
      say ("[red]Error: " ++ e.message ++ "[/red]")
      return 1
    | .ok script =>
      Work.tell (.plain script)
      return 0

/-- A row of the table of servers. -/
def serverRow (server : String × Config.Profile) : List String :=
  [server.1, server.2.dialect.name, server.2.description]

/-- Shows the servers that are configured. -/
def showServers (s : Config.Settings) : Job σ Nat := do
  Work.tell (.table "Database Servers" ["Server", "Dialect", "Description"]
    (s.servers.map serverRow))
  say ("[dim]Repository:[/dim] " ++ s.repository)
  return 0

/-- Tells the user names, one in a line. -/
def sayNames : List String → Job σ Unit
  | [] => return ()
  | name :: names => do
    say name
    sayNames names

/-- Shows the databases on a connection. -/
def showDatabases (c : Connection) : Job σ Nat := do
  match ← onConnection c (databasesOn c) with
  | none => return 1
  | some names =>
    sayNames names
    return 0

/-- An action on each of the databases that have a definition. Gives the number of failures; one
does not stop the others. -/
def actOnEach (around : Surroundings) (s : Config.Settings) (server : String) (action : Action) :
    List String → Job σ Nat
  | [] => return 0
  | name :: names => do
    let path := definitionPath (Files.Path.ofText s.repository) name
    if !(← Work.files).present path then
      say ("[dim]Skipping " ++ name ++ ": no definition in repository[/dim]")
      actOnEach around s server action names
    else
      let done ← actOn around s server action none name
      let failures ← actOnEach around s server action names
      return if done then failures else failures + 1

/-- An action on all databases of a server. -/
def actOnAll (around : Surroundings) (s : Config.Settings) (server : String) (action : Action) :
    Job σ Nat := do
  let c ← connect s server none
  match ← onConnection c (databasesOn c) with
  | none => return 1
  | some names =>
    let failures ← actOnEach around s server action names
    if failures != 0 then
      say ("\n[yellow]" ++ action.name ++ " failed for " ++ Text.decimal failures ++ " of "
        ++ Text.decimal names.length ++ " databases[/yellow]")
    return exitCode (failures == 0)

/-- An action on one database, or on all. -/
def runAction (around : Surroundings) (s : Config.Settings) (server database : String)
    (action : Action) (backup : Option String) : Job σ Nat := do
  if Config.isAll database then actOnAll around s server action
  else return exitCode (← actOn around s server action backup database)

/-- Carries out what is asked for. -/
def carryOut (around : Surroundings) (i : Invocation) : Job σ Nat :=
  match i.request with
  | .script file dialect => showScript file dialect
  | .servers => orExplain (settings around i.config) showServers
  | .databases server =>
    orExplain (do connect (← settings around i.config) server none) showDatabases
  | .act action server database backup =>
    orExplain
      (do
        let s ← settings around i.config
        discard (serverNamed s server)
        return s)
      fun s => runAction around s server database action backup

/-- The code with which the program ends when the command line is not carried out. -/
def Stop.exitCode : Stop → Nat
  | .help => 0
  | .usage => 2

/-- Reads a command line and carries it out. -/
def run (around : Surroundings) (args : List String) : Job σ Nat :=
  match Invocation.ofArguments args with
  | .error stop => return stop.exitCode
  | .ok i => carryOut around i

end Tablekeep.Command
