import Tablekeep.Server.Source

/-!
# Clients

What a backup or a restoration needs of a server: rows, whether a table has any, and statements that
are carried out. Every request may fail, and may change what `ρ` holds of the server whether it
fails or not.
-/

namespace Tablekeep

/-- Why a server did not do what it was asked for. -/
inductive ServerError where
  /-- There was no connection. -/
  | refused (text : String)
  /-- The server did not accept the statement. -/
  | rejected (text : String)
  deriving DecidableEq, Repr

/-- The wording of the error, which is the server's. -/
def ServerError.message : ServerError → String
  | refused text => text
  | rejected text => text

/-- What can be asked of the server of one database. -/
structure Client (ρ : Type) where
  rows : Source (StateM ρ) ServerError
  /-- The table has a row. -/
  hasContent : String → StateM ρ (Except ServerError Bool)
  /-- Carries out a statement. -/
  execute : String → StateM ρ (Except ServerError Unit)

end Tablekeep
