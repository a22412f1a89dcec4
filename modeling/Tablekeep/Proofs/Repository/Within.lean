import Tablekeep.Check.Columns
import Tablekeep.Digest.Report
import Tablekeep.Proofs.Bounds
import Tablekeep.Repository.Backup
import Tablekeep.Repository.Restore

/-!
# Backups and restorations within bounds

Whatever bounds there are, backups, reports and checks are within them if asking for rows is, and a
restoration is if asking whether a table has content is, and inserting a row. On the side of the
files a backup makes the directories of the repository; all else that it writes and removes is the
document of the day and its archive.
-/

namespace Tablekeep

open Files

variable {ρ : Type} {b : Bounds ρ}

/-! ## Reading -/

section Reading

variable {rows : Source (StateM ρ) ServerError} (hrows : ∀ request, b.Allows (rows request))

include hrows

theorem Backup.tablesLines_allowed (plural : String → String) (zone : Option Int)
    (ts : List Table) : b.Allows (tablesLines rows plural zone ts) := by
  induction ts with
  | nil => exact .pure _
  | cons t ts ih =>
      unfold tablesLines
      refine .bind (hrows _) fun answer => ?_
      split
      · exact .pure _
      · dsimp only
        split
        · exact .pure _
        · exact .bind ih fun rest => .pure _

theorem Backup.documentLines_allowed (plural : String → String) (zone : Option Int)
    (db : Database) : b.Allows (documentLines rows plural zone db) := by
  unfold documentLines
  exact .bind (tablesLines_allowed hrows _ _ _) fun body => .pure _

theorem Digest.report_allowed (db : Database) : b.Allows (report rows db) := by
  unfold report
  generalize db.tables = ts
  induction ts with
  | nil => exact .pure _
  | cons t ts ih =>
      unfold tableReports
      refine .bind (hrows _) fun answer => ?_
      split
      · exact .pure _
      · split
        · exact .pure _
        · exact .bind ih fun rest => .pure _

theorem Check.database_allowed (db : Database) : b.Allows (database rows db) := by
  have htables (ts : List Table) : b.Allows (tablesOf rows ts) := by
    induction ts with
    | nil => exact .pure _
    | cons t ts ih =>
        unfold tablesOf
        refine .bind (hrows _) fun answer => ?_
        split
        · exact .pure _
        · exact .bind ih fun rest => .pure _
  unfold database
  exact .bind (htables db.tables) fun checks => .pure _

end Reading

namespace Repository

open Work

/-! ## Backing up -/

/-- Packing a document is within bounds if its archive is, and removing the document. -/
theorem pack_within {document : Path}
    (hwrite : ∀ archive, document.withSuffix? archiveSuffix = some archive →
      ∀ content t t', t.write archive content = .ok t' → b.files t t')
    (hremove : ∀ t t', t.remove document = .ok t' → b.files t t') :
    Within b (pack document : Work ρ RepositoryError Path) := by
  unfold pack
  split
  · exact .fail _
  · rename_i archive hsuffix
    have harchive := hwrite archive hsuffix
    refine .bind (.change (harchive _) _) fun _ => .bind .files fun t => ?_
    refine .bind (.ofExcept _ _) fun member => .bind (.change (harchive _) _) fun _ => ?_
    exact .bind (.change hremove _) fun _ => .bind (.log _ _) fun _ => .pure _

namespace BackupPlan

variable {plan : BackupPlan} {client : Client ρ}

/-- The path of the document of the day, and the one of its archive. -/
inductive Bears (plan : BackupPlan) : Path → Prop
  | document : Bears plan plan.document
  | archive {path : Path} : plan.document.withSuffix? archiveSuffix = some path → Bears plan path

/-- A backup is within bounds if the directories are, the document and the archive, and asking for
rows. -/
theorem run_within (hrows : ∀ request, b.Allows (client.rows request))
    (hmake : ∀ t t', t.makeDirectories plan.repository = .ok t' → b.files t t')
    (hwrite : ∀ path, plan.Bears path → ∀ content t t', t.write path content = .ok t' →
      b.files t t')
    (hremove : ∀ t t', t.remove plan.document = .ok t' → b.files t t') :
    Within b (plan.run client) := by
  have hdocument : Within b (plan.writeDocument client) := by
    unfold writeDocument
    refine .bind (.change (hwrite _ .document _) _) fun _ => ?_
    refine .bind (.ask (Backup.documentLines_allowed hrows _ _ _)) fun written => ?_
    split
    · exact .bind (.change hremove _) fun _ => .fail _
    · exact .change (hwrite _ .document _) _
  have hpack : Within b (pack plan.document : Work ρ RepositoryError Path) :=
    pack_within (fun archive hsuffix => hwrite archive (.archive hsuffix)) hremove
  unfold run
  refine .bind (.change hmake _) fun _ => .bind (.log _ _) fun _ => .bind hdocument fun _ => ?_
  exact .ite hpack (.pure _)

end BackupPlan

/-! ## Restoring -/

/-- Where files may change, unpacking is within bounds. -/
theorem unpack_within (hfiles : ∀ t t', b.files t t') (archive repository : Path) :
    Within b (unpack archive repository : Work ρ RepositoryError Path) := by
  have hchange (g : FileTree → Except FileError FileTree) :
      Within b (Work.change RepositoryError.file g) := .change (fun t t' _ => hfiles t t') _
  have hplace (path : Path) (content : List UInt8) :
      Within b (place path content : Work ρ RepositoryError Unit) := by
    unfold place
    exact .bind .files fun t => .ite (.bind (hchange _) fun _ => hchange _) (hchange _)
  unfold unpack
  refine .bind .files fun t => .guard _ ?_
  split
  · exact .fail _
  · refine .bind .files fun t => .guard _ (.bind .files fun t => .bind (.ofExcept _ _) ?_)
    intro content
    split
    · exact .fail _
    · split
      · exact .fail _
      · exact .bind (hplace _ _) fun _ => .pure _

namespace RestorePlan

variable {plan : RestorePlan} {client : Client ρ}

/-- A restoration is within bounds if files may change, and asking about a table and inserting a row
are within them. -/
theorem run_within (hfiles : ∀ t t', b.files t t')
    (hcontent : ∀ table, b.Allows (client.hasContent table))
    (hexecute : ∀ row : Backup.RowInsert, b.Allows (client.execute (row.batch plan.dialect))) :
    Within b (plan.run client) := by
  have hasked (ts : List Table) : Within b (nonEmpty client ts) := by
    induction ts with
    | nil => exact .pure _
    | cons t ts ih =>
        unfold nonEmpty
        refine .bind (.ask (hcontent _)) fun answer => .bind (.ofExcept _ answer) fun full => ?_
        exact .bind ih fun rest => .pure _
  have hinsert (items : List Backup.ReadItem) : Within b (plan.insert client items) := by
    induction items with
    | nil => exact .pure _
    | cons item items ih =>
        cases item with
        | table name =>
            unfold insert
            exact .bind (.log _ _) fun _ => ih
        | row row =>
            unfold insert
            refine .bind (.ask (hexecute row)) fun answer => .bind (.ofExcept _ answer) fun _ => ?_
            exact ih
  have hread (document : Path) : Within b (plan.readDocument client document) := by
    unfold readDocument
    refine .bind .files fun t => .bind (.ofExcept _ _) fun content => .bind (hinsert _) fun _ => ?_
    split
    · exact .fail _
    · exact .pure _
  have hremove (document : Path) :
      Within b (removeDocument document : Work ρ RepositoryError Unit) := by
    unfold removeDocument
    exact .bind .files fun t => .ite (.change (fun t t' _ => hfiles t t') _) (.pure _)
  have hrestore (backup : Path) : Within b (plan.restoreFrom client backup) := by
    unfold restoreFrom
    refine .ite (.bind (unpack_within hfiles _ _) fun document => ?_) (hread backup)
    exact .ensuring (hread document) (hremove document)
  have htell (counts : List (String × Nat)) :
      Within b (tellCounts counts : Work ρ RepositoryError Unit) := by
    induction counts with
    | nil => exact .pure _
    | cons count counts ih =>
        unfold tellCounts
        exact .bind (.log _ _) fun _ => ih
  unfold run
  refine .bind (hasked _) fun full => .guard _ (.bind .files fun t => .bind (.ofExcept _ _) ?_)
  intro backup
  refine .bind (.log _ _) fun _ => .bind (hrestore backup) fun rows => ?_
  exact .bind (htell _) fun _ => .pure _

end RestorePlan

end Repository

end Tablekeep
