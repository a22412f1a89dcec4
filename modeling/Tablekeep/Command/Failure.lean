import Tablekeep.Config.Loading
import Tablekeep.Repository.Error
import Tablekeep.Script.Basic
import Tablekeep.Server.Waiting

/-!
# What can go wrong in a command
-/

namespace Tablekeep.Command

/-- Why a command did not do what was asked for. -/
inductive Failure where
  | config (error : Config.LoadError)
  | server (error : Config.UnknownServer)
  | address (error : Server.AddressError)
  | connection (error : ServerError)
  | script (error : ScriptError)
  | repository (error : Repository.RepositoryError)
  deriving DecidableEq, Repr

namespace Failure

/-- The wording of the failure. -/
def message : Failure → String
  | config e => e.message
  | server e => e.message
  | address e => e.message
  | connection e => e.message
  | script e => e.message
  | repository e => e.message

/-- The error of a source of rows. -/
def ofSource : SourceError ServerError → Failure
  | .source e => connection e
  | .row e => repository (.row e)

/-- The user is told of the failure before anything was asked of a server: the configuration is
missing or no good, or has no such server. Other failures end the program. -/
def isExplained : Failure → Bool
  | config (.missing _) | config (.notText _) | config (.malformed _) | config (.invalid _) => true
  | server _ => true
  | address (.badPort _) => true
  | _ => false

end Failure

end Tablekeep.Command
