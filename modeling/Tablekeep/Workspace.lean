import Tablekeep.Files.Tree
import Tablekeep.Journal

/-!
# Work on files and servers

A piece of work may read and change the files, ask a server, and tell the user things. It ends with
a result or an error, and what it did before an error stays done: `Work` is a function from a
workspace to an outcome and the workspace afterwards.
-/

namespace Tablekeep

open Files

/-- What work may read and change. -/
structure Workspace (ρ : Type) where
  files : FileTree
  /-- What the user has been told, in order. -/
  journal : List Entry
  /-- What there is of servers. -/
  remote : ρ

/-- Work that gives a value or an error. -/
abbrev Work (ρ ε α : Type) := ExceptT ε (StateM (Workspace ρ)) α

namespace Work

variable {ρ ε ε' α : Type}

/-- The work as a function of the workspace. -/
def on (w : Work ρ ε α) (s : Workspace ρ) : Except ε α × Workspace ρ :=
  w.run.run s

/-- Ends with an error. -/
def fail (e : ε) : Work ρ ε α :=
  throw e

/-- The value, or the error under another name. -/
def ofExcept (f : ε' → ε) : Except ε' α → Work ρ ε α
  | .ok a => pure a
  | .error e => throw (f e)

/-- The same work with its error under another name. -/
def rename (f : ε' → ε) (w : Work ρ ε' α) : Work ρ ε α :=
  ExceptT.adapt f w

/-- The outcome of the work as a value. -/
def attempt (w : Work ρ ε α) : Work ρ ε' (Except ε α) :=
  ExceptT.mk do
    let outcome ← w.run
    pure (.ok outcome)

/-- Tells the user something. -/
def tell (e : Entry) : Work ρ ε Unit :=
  modify fun s => { s with journal := s.journal ++ [e] }

/-- Writes a record. -/
def log (level : Level) (text : String) : Work ρ ε Unit :=
  tell (.record level text)

/-- The files as they are. -/
def files : Work ρ ε FileTree := do
  return (← get).files

/-- Replaces the files. -/
def setFiles (files : FileTree) : Work ρ ε Unit :=
  modify fun s => { s with files := files }

/-- Changes the files, if that can be done. -/
def change (f : FileError → ε) (g : FileTree → Except FileError FileTree) : Work ρ ε Unit := do
  setFiles (← ofExcept f (g (← files)))

/-- Asks a server. -/
def ask (w : StateM ρ α) : Work ρ ε α := do
  let s ← get
  let (a, remote) := w.run s.remote
  set { s with remote := remote }
  return a

/-- Work, and something that is done after it whatever comes of it. -/
def ensuring (w : Work ρ ε α) (after : Work ρ ε Unit) : Work ρ ε α := do
  let outcome ← attempt w
  after
  ofExcept id outcome

end Work

end Tablekeep
