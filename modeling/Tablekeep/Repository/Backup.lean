import Tablekeep.Backup.Writer
import Tablekeep.Repository.Archive

/-!
# Making a backup

The document of the day is written into the repository and packed. If the rows cannot be fetched or
written, no half of a document is left.
-/

namespace Tablekeep.Repository

open Files

variable {ρ : Type}

/-- How a backup is made. -/
structure BackupPlan where
  database : Database
  repository : Path
  today : Calendar.Date
  /-- Pack the document. -/
  archive : Bool
  plural : String → String
  /-- The zone of timestamps that do not name one. -/
  zone : Option Int

namespace BackupPlan

/-- The path of the document. -/
def document (plan : BackupPlan) : Path :=
  plan.repository.child (documentName plan.database.name plan.today)

/-- Fetches the rows and writes the document, of which nothing is left if that fails. -/
def writeDocument (plan : BackupPlan) (client : Client ρ) : Work ρ RepositoryError Unit := do
  Work.change .file (·.write plan.document (.bytes []))
  let written ← Work.ask (Backup.documentLines client.rows plan.plural plan.zone plan.database)
  match written.failure with
  | some e =>
    Work.change .file (·.remove plan.document)
    Work.fail (.ofSource e)
  | none =>
    let bytes := Text.Utf8.encode (Backup.documentText written.lines)
    Work.change .file (·.write plan.document (.bytes bytes))

/-- Makes the backup and gives the path of what is left of it, the archive or the document. -/
def run (plan : BackupPlan) (client : Client ρ) : Work ρ RepositoryError Path := do
  Work.change .file (·.makeDirectories plan.repository)
  Work.log .info
    ("Backing up database " ++ plan.database.name ++ " to " ++ plan.document.toText)
  plan.writeDocument client
  if plan.archive then pack plan.document else return plan.document

end BackupPlan

end Tablekeep.Repository
