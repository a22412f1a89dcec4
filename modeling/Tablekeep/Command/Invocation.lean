import Tablekeep.Command.Grammar

/-!
# What the user asks for

A command line names a command, with switches that count for all commands before it and the
arguments of the command after it.
-/

namespace Tablekeep.Command

/-- What can be done with a database. -/
inductive Action where
  | create
  | backup
  | restore
  | report
  | check
  | drop
  deriving DecidableEq, Repr

namespace Action

/-- The name of an action. -/
def name : Action → String
  | create => "create"
  | backup => "backup"
  | restore => "restore"
  | report => "report"
  | check => "check"
  | drop => "drop"

/-- All actions. -/
def all : List Action :=
  [create, backup, restore, report, check, drop]

/-- The action with the name. -/
def ofName? (s : String) : Option Action :=
  all.find? fun a => a.name == s

end Action

/-- What is asked for. -/
inductive Request where
  /-- The script for the definition in a file. -/
  | script (file dialect : String)
  /-- The servers that are configured. -/
  | servers
  /-- The databases of a server. -/
  | databases (server : String)
  | act (action : Action) (server database : String) (backup : Option String)
  deriving DecidableEq, Repr

/-- What is asked for, and how. -/
structure Invocation where
  /-- The configuration that is named. -/
  config : Option String
  /-- Show all records. -/
  verbose : Bool
  request : Request
  deriving DecidableEq, Repr

/-! ## Grammars -/

/-- The switch that asks for help. -/
def helpSwitch : Switch := ⟨["-h", "--help"], .help, "help"⟩

/-- Every command line. -/
def mainGrammar : Grammar where
  switches := [helpSwitch, ⟨["--config"], .value, "config"⟩,
    ⟨["-v", "--verbose"], .flag, "verbose"⟩]
  slots := [.command]

/-- The arguments of a command without switches of its own. -/
def wordGrammar (slots : List Slot) : Grammar :=
  ⟨[helpSwitch], slots⟩

/-- The arguments of the command for a script. -/
def scriptGrammar : Grammar where
  switches := [helpSwitch, ⟨["--dialect"], .value, "dialect"⟩]
  slots := [.one]

/-- The arguments of an action: only a restoration may name a backup. -/
def actionGrammar : Action → Grammar
  | .restore => wordGrammar [.one, .one, .optional]
  | _ => wordGrammar [.one, .one]

/-! ## Reading -/

/-- The arguments of a command, none of which may be left over. -/
def arguments (g : Grammar) (args : List String) : Except Stop Parsed := do
  let p ← g.parse args
  if p.leftover then throw .usage
  return p

/-- What the command with its arguments asks for. -/
def Request.ofArguments : List String → Except Stop Request
  | [] => .error .usage
  | name :: args =>
    match name, Action.ofName? name with
    | _, some action => do
      let p ← arguments (actionGrammar action) args
      return .act action ((p.word? 0).getD "") ((p.word? 1).getD "") (p.word? 2)
    | "ddl", none => do
      let p ← arguments scriptGrammar args
      return .script ((p.word? 0).getD "") ((p.value? "dialect").getD "mysql")
    | "servers", none => do
      discard (arguments (wordGrammar []) args)
      return .servers
    | "list", none => do
      let p ← arguments (wordGrammar [.one]) args
      return .databases ((p.word? 0).getD "")
    | _, none => .error .usage

/-- What the command line asks for. -/
def Invocation.ofArguments (args : List String) : Except Stop Invocation := do
  let p ← mainGrammar.parse args
  let request ← Request.ofArguments (p.filled.headD [])
  if p.leftover then throw .usage
  return ⟨p.value? "config", p.has "verbose", request⟩

end Tablekeep.Command
