import Tablekeep.Repository.Archive

/-!
# Restoring a backup

All tables have to be empty. An archive is unpacked first, and what was unpacked is removed at the
end whatever happens; a document is read where it lies. There is no transaction: rows that were
inserted before a failure stay inserted.
-/

namespace Tablekeep.Repository

open Files

variable {ρ : Type}

/-- What is restored, and how. -/
structure RestorePlan where
  database : Database
  repository : Path
  /-- The archive or the document; the latest archive if none is named. -/
  backup : Option String
  dialect : Dialect
  plural : String → String
  /-- The zone in which timestamps are restored. -/
  zone : Option Int

/-- What was restored. -/
structure Restored where
  backup : Path
  /-- How many rows were inserted into each table. -/
  inserted : List (String × Nat)
  deriving DecidableEq, Repr

/-- The number of all rows. -/
def Restored.total (r : Restored) : Nat :=
  r.inserted.foldr (fun (_, n) rest => n + rest) 0

namespace RestorePlan

/-! ## Checks -/

/-- The tables that have rows. -/
def nonEmpty (client : Client ρ) : List Table → Work ρ RepositoryError (List String)
  | [] => return []
  | t :: ts => do
    let full ← Work.ofExcept .server (← Work.ask (client.hasContent t.name))
    let rest ← nonEmpty client ts
    return if full then t.name :: rest else rest

/-- The path of a backup that is named: as it is, if there is something, and in the repository
otherwise. -/
def named (plan : RestorePlan) (t : FileTree) (backup : String) : Path :=
  let path := Path.ofText backup
  if path.isAbsolute || t.present path then path else plan.repository.append path

/-- The path of what is to be restored. -/
def source (plan : RestorePlan) (t : FileTree) : Except RepositoryError Path :=
  match plan.backup with
  | none =>
    match latestArchive? t plan.repository plan.database.name with
    | none => .error (.noArchive plan.database.name plan.repository)
    | some path => .ok path
  | some backup =>
    let path := plan.named t backup
    if !([archiveSuffix, documentSuffix].contains (Text.lower path.suffix)) then
      .error (.notABackup plan.database.name backup)
    else if !t.isFile path then .error (.backupMissing plan.database.name path)
    else .ok path

/-! ## Rows -/

/-- Tells of the tables and inserts the rows, one after another. -/
def insert (plan : RestorePlan) (client : Client ρ) :
    List Backup.ReadItem → Work ρ RepositoryError Unit
  | [] => return ()
  | .table name :: items => do
    Work.log .info ("Starting to restore table " ++ name)
    plan.insert client items
  | .row r :: items => do
    Work.ofExcept .server (← Work.ask (client.execute (r.batch plan.dialect)))
    plan.insert client items

/-- Restores a document and gives its rows. -/
def readDocument (plan : RestorePlan) (client : Client ρ) (document : Path) :
    Work ρ RepositoryError (List Backup.RowInsert) := do
  let content ← Work.ofExcept .file ((← Work.files).read document)
  let reader : Backup.Reader := ⟨plan.database, plan.plural, plan.zone⟩
  let result := reader.read content.toBytes
  plan.insert client result.items
  match result.failure with
  | some e => Work.fail (.read e)
  | none => return result.rows

/-- Removes a document if it is there. -/
def removeDocument (document : Path) : Work ρ RepositoryError Unit := do
  if (← Work.files).present document then
    Work.change .file (·.remove document)

/-- The names of the tables, each once. -/
def tableNames (db : Database) : List String :=
  (db.tables.map (·.name)).eraseDups

/-- How many of the rows are of each table. -/
def counts (db : Database) (rows : List Backup.RowInsert) : List (String × Nat) :=
  (tableNames db).map fun name => (name, rows.countP fun r => r.table == name)

/-- Tells how many rows were inserted into each table. -/
def tellCounts : List (String × Nat) → Work ρ RepositoryError Unit
  | [] => return ()
  | (name, n) :: rest => do
    Work.log .info ("Restored " ++ Text.decimal n ++ " rows into " ++ name)
    tellCounts rest

/-- Restores the backup at the path, which is unpacked if it is an archive. -/
def restoreFrom (plan : RestorePlan) (client : Client ρ) (backup : Path) :
    Work ρ RepositoryError (List Backup.RowInsert) := do
  if Text.lower backup.suffix = archiveSuffix then
    let document ← unpack backup plan.repository
    Work.ensuring (plan.readDocument client document) (removeDocument document)
  else plan.readDocument client backup

/-- Restores the backup. -/
def run (plan : RestorePlan) (client : Client ρ) : Work ρ RepositoryError Restored := do
  let full ← nonEmpty client plan.database.tables
  if !full.isEmpty then
    Work.fail (.tablesNotEmpty plan.database.name full)
  let backup ← Work.ofExcept id (plan.source (← Work.files))
  Work.log .info ("Using " ++ backup.toText)
  let rows ← plan.restoreFrom client backup
  let inserted := counts plan.database rows
  tellCounts inserted
  return ⟨backup, inserted⟩

end RestorePlan

end Tablekeep.Repository
