import Tablekeep.Script.Dialect
import Tablekeep.Server.Address

/-!
# Servers that are configured

A profile says where a server is and which dialect it speaks. The address of a database on it is the
address of the server with the password and the name of the database filled in, whatever the way in
which addresses are read and written.
-/

namespace Tablekeep.Config

/-- A server. -/
structure Profile where
  url : String
  /-- The name of the dialect. -/
  dialectName : String
  description : String
  /-- What stands for the placeholder in the address. -/
  password : Option String
  deriving DecidableEq, Repr

/-- The name that means all databases of a server. -/
def allDatabases : String := "all"

/-- What a password is put in place of. -/
def passwordPlaceholder : String := "[YOUR-PASSWORD]"

/-- The characters with `part` replaced everywhere by `image`. `skip` characters of a replaced part
are still to be passed over. -/
def replaceFrom (part image : List Char) : Nat → List Char → List Char
  | _, [] => []
  | skip + 1, _ :: cs => replaceFrom part image skip cs
  | 0, c :: cs =>
    if part.isPrefixOf (c :: cs) then image ++ replaceFrom part image (part.length - 1) cs
    else c :: replaceFrom part image 0 cs

/-- The name of a database means all of them. -/
def isAll (database : String) : Bool :=
  Text.lower database == allDatabases

namespace Profile

/-- The dialect that the server speaks. -/
def dialect (p : Profile) : Dialect :=
  .ofName p.dialectName

/-- The address of the server with its password. -/
def serverUrl (p : Profile) : String :=
  match p.password with
  | none => p.url
  | some password =>
    if password.isEmpty then p.url
    else
      String.ofList (replaceFrom passwordPlaceholder.toList
        (Text.Percent.encode [] password).toList 0 p.url.toList)

/-- The database that is meant by a name: without one, or with the name for all, it is the database
that every server of the dialect has. -/
def databaseFor (p : Profile) (database : Option String) : String :=
  match database with
  | none => p.dialect.defaultDatabase
  | some name => if isAll name then p.dialect.defaultDatabase else name

/-- The address of a database on the server. -/
def databaseUrl (p : Profile) (database : Option String)
    (addressing : Server.Addressing := .standard) : Except Server.AddressError String :=
  (addressing.read p.serverUrl).map fun a =>
    addressing.write (addressing.withDatabase a (p.databaseFor database))

end Profile

/-- There is no server with the name. -/
structure UnknownServer where
  name : String
  /-- The names that there are. -/
  available : List String
  deriving DecidableEq, Repr

/-- The wording of the error. -/
def UnknownServer.message (e : UnknownServer) : String :=
  "Server '" ++ e.name ++ "' not found in config. Available: "
    ++ (if e.available.isEmpty then "(none)" else Text.join ", " e.available)

/-- What is configured. -/
structure Settings where
  /-- The servers by name, in order. -/
  servers : List (String × Profile)
  /-- The directory with definitions and backups. -/
  repository : String
  deriving DecidableEq, Repr

/-- The repository where none is configured. -/
def defaultRepository : String := "repository"

/-- The server with the name. -/
def Settings.server (s : Settings) (name : String) : Except UnknownServer Profile :=
  match s.servers.lookup name with
  | some profile => .ok profile
  | none => .error ⟨name, s.servers.map (·.1)⟩

end Tablekeep.Config
