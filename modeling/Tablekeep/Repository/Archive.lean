import Tablekeep.Repository.Error
import Tablekeep.Workspace

/-!
# Documents and archives in a repository

A repository is a directory with definitions and backups. The backup of the database `shop` on the
first of March 2024 is the document `shop-2024-03-01.xml`, which is packed into the archive
`shop-2024-03-01.zip` and removed. The latest archive of a database is found by the day in its name.
-/

namespace Tablekeep.Repository

open Files

variable {ρ : Type}

/-! ## Names -/

/-- The suffixes of definitions, documents and archives. -/
def definitionSuffix : String := ".dbd"
@[inherit_doc definitionSuffix]
def documentSuffix : String := ".xml"
@[inherit_doc definitionSuffix]
def archiveSuffix : String := ".zip"

/-- The path of the definition of a database. -/
def definitionPath (repository : Path) (database : String) : Path :=
  repository.child (database ++ definitionSuffix)

/-- The name of the backup of a database on a day. -/
def documentName (database : String) (day : Calendar.Date) : String :=
  database ++ "-" ++ day.toStamp ++ documentSuffix

/-- The day that is written with four digits for the year and two for the month and the day. -/
def writtenDay? (cs : List Char) : Option Calendar.Date :=
  match cs with
  | [a, b, c, d, '-', e, f, '-', g, h] => do
    let day : Calendar.Date :=
      ⟨← Text.decimal? [a, b, c, d], ← Text.decimal? [e, f], ← Text.decimal? [g, h]⟩
    if day.isValid then some day else none
  | _ => none

/-- The day of an archive of the database with the given name; nothing for any other name. -/
def archiveDay? (database name : String) : Option Calendar.Date :=
  let start := database.toList ++ ['-']
  let cs := name.toList
  let day := (cs.drop start.length).take 10
  if cs = start ++ day ++ archiveSuffix.toList then writtenDay? day else none

/-! ## The latest archive -/

/-- The later of two dated paths. -/
def later (a b : Calendar.Date × Path) : Calendar.Date × Path :=
  if a.1.number < b.1.number then b else a

/-- The dated archives of a database that are files. -/
def datedArchives (t : FileTree) (repository : Path) (database : String) :
    List (Calendar.Date × Path) :=
  (t.namesIn repository).filterMap fun name =>
    let path := repository.child name
    match archiveDay? database name with
    | some day => if t.isFile path then some (day, path) else none
    | none => none

/-- The archive of a database with the latest day. -/
def latestArchive? (t : FileTree) (repository : Path) (database : String) : Option Path :=
  match datedArchives t repository database with
  | [] => none
  | a :: rest => some (rest.foldl later a).2

/-! ## Packing and unpacking -/

/-- The member that packing a path makes. -/
def packed (t : FileTree) (p : Path) : Except FileError (String × List UInt8) :=
  if t.isDirectory p then .ok (p.name ++ "/", [])
  else (t.read p).map fun content => (p.name, content.toBytes)

/-- Packs a document into an archive beside it, and removes it. The archive is begun before the
document is looked for, and so an empty one stays behind where there is no document. -/
def pack (document : Path) : Work ρ RepositoryError Path := do
  match document.withSuffix? archiveSuffix with
  | none => Work.fail .nameless
  | some archive =>
    Work.change .file (·.write archive (.archive []))
    let member ← Work.ofExcept .file (packed (← Work.files) document)
    Work.change .file (·.write archive (.archive [member]))
    Work.change .file (·.remove document)
    Work.log .debug ("Archived " ++ document.name ++ " to " ++ archive.toText)
    return archive

/-- The content of a member; of members with one name the last is meant. -/
def member? (members : List (String × List UInt8)) (name : String) : Option (List UInt8) :=
  members.reverse.lookup name

/-- Makes the directories on the way to a file and writes it. -/
def place (path : Path) (content : List UInt8) : Work ρ RepositoryError Unit := do
  if !(← Work.files).present path.parent then
    Work.change .file (·.makeDirectories path.parent)
  Work.change .file (·.write path (.bytes content))

/-- Unpacks the document of an archive into a repository in which it must not be yet. -/
def unpack (archive repository : Path) : Work ρ RepositoryError Path := do
  if !(← Work.files).isFile archive then
    Work.fail (.archiveMissing archive)
  match archive.withSuffix? documentSuffix with
  | none => Work.fail .nameless
  | some document =>
    let target := repository.child document.name
    if (← Work.files).present target then
      Work.fail (.memberPresent archive document.name)
    let content ← Work.ofExcept .file ((← Work.files).read archive)
    match content.members? with
    | none => Work.fail .notAnArchive
    | some members =>
      match member? members document.name with
      | none => Work.fail (.memberMissing document.name archive)
      | some bytes =>
        place target.collapse bytes
        return target

end Tablekeep.Repository
