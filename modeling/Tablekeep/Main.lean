import Tablekeep.Command.Display
import Tablekeep.Command.Program
import Tablekeep.Server.Offline
import Std.Time

/-!
# The command line

The files that a command reads are brought into a file tree, the command is carried out on it, and
the journal is shown. Servers cannot be reached from here, so that nothing is ever written to a
file.
-/

namespace Tablekeep

open Command Files

/-- Adds what is at the end of the names, with the directories on the way there. -/
def plant (node : Node) (t : FileTree) (place : Place) : List String → FileTree
  | [] => t
  | name :: rest =>
    let next := if name = ".." then place.dropLast else place ++ [name]
    plant node (t.put next (if rest.isEmpty then node else .directory)) next rest

/-- Brings in the file or directory at a path, if there is one. -/
def bring (t : FileTree) (p : Path) : IO FileTree := do
  let found := (← IO.currentDir) / p.toText
  let start := if p.isAbsolute then [] else t.here
  if ← found.isDir then
    return plant .directory t start p.names
  else if ← found.pathExists then
    let bytes ← IO.FS.readBinFile found
    return plant (.file (.bytes bytes.toList)) t start p.names
  else return t

/-- The directory where the work is done, and nothing else. -/
def bareTree : IO FileTree := do
  let here := (Path.ofText (← IO.currentDir).toString).names
  return plant .directory ⟨[], here⟩ [] here

/-- The home of the user at work, the variables that are set, and the date. -/
def surroundings : IO Surroundings := do
  let home ← IO.getEnv "HOME"
  let today ← Std.Time.PlainDate.now
  return {
    environment := {
      configName := ← IO.getEnv "DBTOOLS_CONFIG"
      home := fun user => if user.isEmpty then home else none }
    today := ⟨today.year.toInt.toNat, today.month.val.toNat, today.day.val.toNat⟩ }

/-- Brings in the files that a command reads. -/
def filesFor (around : Surroundings) (i : Invocation) : IO FileTree := do
  let t ← bareTree
  match i.request with
  | .script file _ => bring t (Path.ofText file)
  | .servers | .databases _ => bring t (Config.configPath around.environment t i.config)
  | .act _ _ database _ =>
    let t ← bring t (Config.configPath around.environment t i.config)
    match Config.load around.environment t i.config with
    | .error _ => return t
    | .ok s => bring t (Repository.definitionPath (Path.ofText s.repository) database)

/-- Carries out what is asked for and shows what the user is told. -/
def perform (i : Invocation) : IO UInt32 := do
  let around ← surroundings
  let files ← filesFor around i
  let (outcome, after) := (carryOut around i).on ⟨files, [], .fresh Server.Offline.mk⟩
  for line in journalLines i.verbose after.journal do
    IO.println line
  match outcome with
  | .ok code => return code.toUInt32
  | .error e =>
    IO.eprintln e.message
    return 1

end Tablekeep

open Tablekeep Command in
def main (args : List String) : IO UInt32 := do
  match Invocation.ofArguments args with
  | .ok i => perform i
  | .error stop =>
    for line in usageLines do
      if stop = .help then IO.println line else IO.eprintln line
    return stop.exitCode.toUInt32
