import Tablekeep.Text.Case

/-!
# Dialects

Two kinds of servers are spoken to. They differ in how an identity column is declared, in where
foreign keys are written, and in whether an explicit identity value has to be announced.
-/

namespace Tablekeep

/-- The language of a server. -/
inductive Dialect where
  | mysql
  | azure
  deriving DecidableEq, Repr, Inhabited

namespace Dialect

/-- The dialect with the given name: `AZURE` in any letter case is one of them, and every other name
means the default one. -/
def ofName (name : String) : Dialect :=
  if Text.upper name = "AZURE" then azure else mysql

/-- The name of the dialect. -/
def name : Dialect → String
  | mysql => "mysql"
  | azure => "azure"

/-- Explicit identity values have to be switched on for each insertion. -/
def needsIdentityInsert : Dialect → Bool
  | mysql => false
  | azure => true

/-- The database that every server has. -/
def defaultDatabase : Dialect → String
  | mysql => "mysql"
  | azure => "master"

end Dialect

/-- A dialect as it is asked for. -/
inductive DialectRequest where
  | exactly (d : Dialect)
  | named (name : String)
  deriving DecidableEq, Repr

/-- The dialect that is meant. -/
def DialectRequest.dialect : DialectRequest → Dialect
  | exactly d => d
  | named name => .ofName name

end Tablekeep
