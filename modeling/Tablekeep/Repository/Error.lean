import Tablekeep.Backup.Reader
import Tablekeep.Files.Tree
import Tablekeep.Server.Client
import Tablekeep.Text.Malformed

/-!
# What can go wrong in a repository
-/

namespace Tablekeep.Repository

open Files

/-- Why a backup was not made, found or restored. -/
inductive RepositoryError where
  | file (error : FileError)
  /-- A path that has no name, and so no suffix either. -/
  | nameless
  /-- A file that should be text is not. -/
  | notText (fault : Text.Utf8.Fault)
  | archiveMissing (archive : Path)
  /-- The document is not in the archive. -/
  | memberMissing (member : String) (archive : Path)
  /-- The document lies in the repository already. -/
  | memberPresent (archive : Path) (member : String)
  | notAnArchive
  /-- There is no archive of the database. -/
  | noArchive (database : String) (repository : Path)
  /-- What is to be restored is neither an archive nor a document. -/
  | notABackup (database backup : String)
  | backupMissing (database : String) (backup : Path)
  | tablesNotEmpty (database : String) (tables : List String)
  | row (error : RowError)
  | read (error : Backup.ReadError)
  | server (error : ServerError)
  deriving DecidableEq, Repr

/-- The wording of an error of the reader. -/
def readMessage : Backup.ReadError → String
  | .shape e => e.message
  | .value e => e.message
  | .encoding name => "unknown encoding: " ++ name

namespace RepositoryError

/-- The wording of the error. -/
def message : RepositoryError → String
  | file e => e.message
  | nameless => "The path has an empty name"
  | notText fault => fault.message
  | archiveMissing archive => "Backup archive not found: " ++ archive.toText
  | memberMissing member archive => "Backup " ++ member ++ " not in " ++ archive.toText
  | memberPresent archive member =>
    "Cannot restore from " ++ archive.toText ++ " - " ++ member ++ " is also in the repository"
  | notAnArchive => "File is not a zip file"
  | noArchive database repository =>
    "No backup archive for database " ++ database ++ " in " ++ repository.toText
  | notABackup database backup =>
    "Cannot restore database " ++ database ++ " from " ++ backup
      ++ " - it must be a zip or xml file"
  | backupMissing database backup =>
    "Cannot restore database " ++ database ++ " from " ++ backup.toText ++ " - it isn't there!"
  | tablesNotEmpty database tables =>
    "Cannot restore database " ++ database ++ ", some of its tables have content: "
      ++ Text.join ", " tables
  | row e => e.message
  | read e => readMessage e
  | server e => e.message

/-- The error of a source of rows. -/
def ofSource : SourceError ServerError → RepositoryError
  | .source e => server e
  | .row e => row e

end RepositoryError

end Tablekeep.Repository
