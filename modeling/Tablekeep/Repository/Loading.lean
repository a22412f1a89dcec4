import Tablekeep.Definition.Draft
import Tablekeep.Repository.Archive

/-!
# Definitions in files

A definition is read from a file and called by the name of the file. What is wrong with it is a
value and goes into the journal, where it is written before the reading stops; only a file that is
not text is an error of the work.
-/

namespace Tablekeep.Repository

open Files

variable {ρ : Type}

/-! ## Texts -/

/-- Writes the record about a definition that is no good, and stops. -/
def refuse {α : Type} (e : DefinitionError) : Work ρ DefinitionError α := do
  Work.log .error e.logText
  Work.fail e

/-- The draft after one more line. -/
def readLine (d : Draft) (text : String) (line : Int) : Work ρ DefinitionError Draft :=
  match d.feed text line with
  | (d, none) => return d
  | (_, some e) => refuse e

/-- The draft after the lines, numbered from `line` on. -/
def readLines (d : Draft) (line : Int) : List String → Work ρ DefinitionError Draft
  | [] => return d
  | text :: rest => do
    let d ← readLine d text line
    readLines d (line + 1) rest

/-- The database, if nothing is missing at the end. -/
def readEnd (d : Draft) : Work ρ DefinitionError Database :=
  match d.finish with
  | .ok db => return db
  | .error e => refuse e

/-- The database that the text defines, or the first thing wrong with it. -/
def readDefinition {ε : Type} (source text : String) :
    Work ρ ε (Except DefinitionError Database) :=
  Work.attempt do
    let d ← readLines (.empty source) 1 (Text.lines text)
    readEnd d

/-! ## Files -/

/-- The definition in the file at the path. -/
def loadDefinition (path : Path) : Work ρ RepositoryError (Except DefinitionError Database) := do
  if !(← Work.files).isFile path then
    Work.attempt (refuse (.ofMissingFile path.toText))
  else
    let content ← Work.ofExcept .file ((← Work.files).read path)
    let text ← Work.ofExcept .notText (Text.Utf8.decode content.toBytes)
    readDefinition path.name text

end Tablekeep.Repository
