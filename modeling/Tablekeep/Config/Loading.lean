import Tablekeep.Config.Profile
import Tablekeep.Files.Tree
import Tablekeep.Text.Malformed
import Tablekeep.Toml.Document

/-!
# Reading the configuration

The configuration is read from the file that the user names, or that the environment names, or from
the one in the directory where the work is done. Profiles are strict: what should be a text has to
be one. The repository may be any value, of which the text is taken.
-/

namespace Tablekeep.Config

open Files

/-- Why there is no configuration. -/
inductive LoadError where
  | missing (path : Path)
  | file (error : FileError)
  | notText (fault : Text.Utf8.Fault)
  /-- The file is no configuration file. -/
  | malformed (path : Path)
  /-- A profile is not as it should be. -/
  | invalid (path : Path)
  /-- The servers are not in a table. -/
  | noTable
  /-- The repository is in the home of someone unknown. -/
  | homeless
  deriving DecidableEq, Repr

/-- The name of the file where no other is named. -/
def defaultName : String := "dbtools.toml"

/-- The wording of the error. -/
def LoadError.message : LoadError → String
  | missing path =>
    "dbtools config not found: " ++ path.toText ++ "\nCreate " ++ defaultName
      ++ " or set DBTOOLS_CONFIG."
  | file e => e.message
  | notText fault => fault.message
  | malformed path => "Invalid TOML in " ++ path.toText ++ ": Invalid statement"
  | invalid path => "Invalid dbtools config in " ++ path.toText ++ ": Invalid profile"
  | noTable => "The servers are not in a table"
  | homeless => "Could not determine home directory."

/-- What the surroundings say about the configuration. -/
structure Environment where
  /-- The file that the environment names. -/
  configName : Option String
  /-- The home of a user; the empty name is the user at work. -/
  home : String → Option String

/-! ## Paths -/

/-- The path of the configuration. -/
def configPath (env : Environment) (t : FileTree) (named : Option String) : Path :=
  match named, env.configName with
  | some name, _ => Path.ofText name
  | none, some name =>
    if name.isEmpty then ⟨.root, t.here ++ [defaultName]⟩ else Path.ofText name
  | none, none => ⟨.root, t.here ++ [defaultName]⟩

/-- The path with a home in place of a name with a tilde at the front. -/
def atHome (env : Environment) (p : Path) : Except LoadError Path :=
  match p.anchor, p.names with
  | .here, name :: rest =>
    match name.toList with
    | '~' :: user =>
      match env.home (String.ofList user) with
      | none => .error .homeless
      | some home =>
        let start := Path.ofText home
        .ok { start with names := start.names ++ rest }
    | _ => .ok p
  | _, _ => .ok p

/-! ## Profiles -/

/-- The text under a key, or `missing` where there is none; nothing where there is no text. -/
def textOr (missing : Option String) (key : String) (t : Toml.Table) : Option String :=
  match t.lookup key with
  | none => missing
  | some (.text s) => some s
  | some _ => none

/-- The profile that a value describes. -/
def profile? : Toml.Value → Option Profile
  | .table t => do
    return {
      url := ← textOr none "url" t
      dialectName := ← textOr (some "mysql") "dialect" t
      description := ← textOr (some "") "description" t
      password := ←
        if (t.lookup "db_password").isNone then some none
        else (textOr none "db_password" t).map some }
  | _ => none

/-- The profiles in a table by name. -/
def profiles? : Toml.Table → Option (List (String × Profile))
  | [] => some []
  | (name, value) :: rest => do
    let profile ← profile? value
    let others ← profiles? rest
    return (name, profile) :: others

/-- The table of servers, which may be missing. -/
def serverTable (t : Toml.Table) : Except LoadError Toml.Table :=
  match t.lookup "servers" with
  | none => .ok []
  | some (.table servers) => .ok servers
  | some _ => .error .noTable

/-- The repository, which is seen from the directory of the configuration. -/
def repositoryOf (env : Environment) (path : Path) (t : Toml.Table) : Except LoadError String :=
  match t.lookup "repository" with
  | none => .ok defaultRepository
  | some value => do
    let repository ← atHome env (Path.ofText value.display)
    return (path.parent.append repository).toText

/-! ## Loading -/

/-- The text of the file at the path. -/
def textAt (t : FileTree) (path : Path) : Except LoadError String :=
  if !t.present path then .error (.missing path)
  else
    match t.read path with
    | .error e => .error (.file e)
    | .ok content => (Text.Utf8.decode content.toBytes).mapError .notText

/-- The configuration, which is at the path that is named or at one of the others. -/
def load (env : Environment) (t : FileTree) (named : Option String) :
    Except LoadError Settings := do
  let path := configPath env t named
  let text ← textAt t path
  match Toml.read? text with
  | none => throw (.malformed path)
  | some table =>
    let servers ← serverTable table
    match profiles? servers with
    | none => throw (.invalid path)
    | some profiles => return ⟨profiles, ← repositoryOf env path table⟩

end Tablekeep.Config
