import Tablekeep.Server.Network

/-!
# A server that is never there

Where no server can be reached, every client is refused. What needs no server still works, and what
needs one fails as it does when a server is down.
-/

namespace Tablekeep.Server

/-- A server that admits nobody. -/
structure Offline where
  deriving DecidableEq, Repr

namespace Offline

/-- What a client is told. -/
def refusal : String := "No server can be reached from here"

instance : Server Offline where
  accept s _ := (some refusal, s)
  answer s _ _ _ := (.error refusal, s)

end Offline

/-- The network before anything has passed on it. -/
def Network.fresh {σ : Type} (server : σ) : Network σ :=
  ⟨server, 0, []⟩

end Tablekeep.Server
