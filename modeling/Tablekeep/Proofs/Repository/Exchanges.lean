import Tablekeep.Check.Columns
import Tablekeep.Digest.Report
import Tablekeep.Proofs.Server.Conversation
import Tablekeep.Repository.Backup
import Tablekeep.Repository.Restore

/-!
# What backups and restorations ask of a server

Backups, reports and checks ask for rows, and for nothing else. A restoration first asks of each
table whether it has content, and has something inserted only if it was answered for every table of
the database that there is none; from then on it has nothing done but that rows are inserted.
-/

namespace Tablekeep

open Server Files

variable {σ : Type} [Server σ]

/-- Rows are asked for. -/
def Server.Exchange.IsRead (x : Exchange) : Prop :=
  ∃ request answer, x = .select request answer

/-- A row is inserted. -/
def Server.Exchange.Inserts (d : Dialect) (x : Exchange) : Prop :=
  ∃ row answer, x = .run (Backup.RowInsert.batch d row) answer

/-! ## Reading -/

/-- Rows are asked for, and what follows comes to nothing good if there are none to be had. -/
theorem Server.Talks.rows {α : Type} {good : α → Prop} {c : Connection} {request : RowRequest}
    {k : Except ServerError (List Row) → StateM (Network σ) α}
    (hok : ∀ rows, Talks c.dialect Exchange.IsRead good (k (.ok rows)))
    (herror : ∀ e, ∃ a, k (.error e) = Pure.pure a ∧ ¬ good a) :
    Talks c.dialect Exchange.IsRead good (c.rows request >>= k) := by
  refine .bind (.send c (.select request) fun answer => ⟨request, answer, rfl⟩) ?_ ?_
  · intro answer
    cases answer with
    | ok rows => exact hok rows
    | error e =>
        obtain ⟨a, ha, -⟩ := herror e
        rw [ha]
        exact .pure a
  · intro answer n hgood
    cases answer with
    | ok rows => exact ⟨rows, rfl⟩
    | error e =>
        obtain ⟨a, ha, hbad⟩ := herror e
        rw [ha] at hgood
        exact absurd hgood hbad

namespace Backup

theorem tablesLines_talks (c : Connection) (plural : String → String) (zone : Option Int)
    (ts : List Table) :
    Talks (σ := σ) c.dialect Exchange.IsRead (fun written => written.failure = none)
      (tablesLines c.rows plural zone ts) := by
  induction ts with
  | nil => exact .pure _
  | cons t ts ih =>
      unfold tablesLines
      refine .rows (fun rows => ?_) fun e => ⟨_, rfl, nofun⟩
      dsimp only
      split
      · exact .pure _
      · exact ih.map fun rest h => h

theorem documentLines_talks (c : Connection) (plural : String → String) (zone : Option Int)
    (db : Database) :
    Talks (σ := σ) c.dialect Exchange.IsRead (fun written => written.failure = none)
      (documentLines c.rows plural zone db) := by
  unfold documentLines
  exact (tablesLines_talks c plural zone db.tables).map fun body h => h

end Backup

theorem Digest.tableReports_talks (c : Connection) (ts : List Table) :
    Talks (σ := σ) c.dialect Exchange.IsRead IsOk (tableReports c.rows ts) := by
  induction ts with
  | nil => exact .pure _
  | cons t ts ih =>
      unfold tableReports
      refine .rows (fun rows => ?_) fun e => ⟨_, rfl, not_isOk_error _⟩
      dsimp only
      split
      · exact .pure _
      · exact ih.map fun rest h => isOk_map_iff.mp h

theorem Check.tablesOf_talks (c : Connection) (ts : List Table) :
    Talks (σ := σ) c.dialect Exchange.IsRead IsOk (tablesOf c.rows ts) := by
  induction ts with
  | nil => exact .pure _
  | cons t ts ih =>
      unfold tablesOf
      refine .rows (fun rows => ?_) fun e => ⟨_, rfl, not_isOk_error _⟩
      exact ih.map fun rest h => isOk_map_iff.mp h

theorem Check.database_talks (c : Connection) (db : Database) :
    Talks (σ := σ) c.dialect Exchange.IsRead IsOk (database c.rows db) := by
  unfold database
  exact (tablesOf_talks c db.tables).map fun checks h => isOk_map_iff.mp h

/-! ## Backing up -/

namespace Repository

open Work

theorem pack_sends {d : Dialect} {Q : Exchange → Prop} (document : Path) :
    Sends d Q (pack document : Work (Network σ) RepositoryError Path) := by
  unfold pack
  split
  · exact .fail _
  · refine .bind (.change _ _) fun _ => .bind .files fun t => .bind (.ofExcept _ _) fun member => ?_
    refine .bind (.change _ _) fun _ => .bind (.change _ _) fun _ => .bind (.log _ _) fun _ => ?_
    exact .pure _

theorem BackupPlan.run_sends (plan : BackupPlan) (c : Connection) :
    Sends (σ := σ) c.dialect Exchange.IsRead (plan.run c.client) := by
  have hwrite : Sends (σ := σ) c.dialect Exchange.IsRead (plan.writeDocument c.client) := by
    unfold writeDocument
    refine .bind (.change _ _) fun _ => ?_
    refine .ask (Backup.documentLines_talks c _ _ _) (fun written => ?_) fun written hbad => ?_
    · split
      · exact .bind (.change _ _) fun _ => .fail _
      · exact .change _ _
    · split
      · exact fails_bind fun _ => fails_fail _
      · rename_i hnone
        exact absurd hnone hbad
  unfold run
  refine .bind (.change _ _) fun _ => .bind (.log _ _) fun _ => .bind hwrite fun _ => ?_
  exact .ite (pack_sends _) (.pure _)

/-! ## Restoring -/

theorem place_sends {d : Dialect} {Q : Exchange → Prop} (path : Path) (content : List UInt8) :
    Sends d Q (place path content : Work (Network σ) RepositoryError Unit) := by
  unfold place
  refine .bind .files fun t => .ite ?_ (.change _ _)
  exact .bind (.change _ _) fun _ => .change _ _

theorem unpack_sends {d : Dialect} {Q : Exchange → Prop} (archive repository : Path) :
    Sends d Q (unpack archive repository : Work (Network σ) RepositoryError Path) := by
  unfold unpack
  refine .bind .files fun t => .guard _ ?_
  split
  · exact .fail _
  · refine .bind .files fun t => .guard _ (.bind .files fun t => .bind (.ofExcept _ _) ?_)
    intro content
    split
    · exact .fail _
    · split
      · exact .fail _
      · exact .bind (place_sends _ _) fun _ => .pure _

namespace RestorePlan

variable (plan : RestorePlan) (c : Connection)

theorem insert_sends (items : List Backup.ReadItem) :
    Sends (σ := σ) c.dialect (Exchange.Inserts plan.dialect) (plan.insert c.client items) := by
  induction items with
  | nil => exact .pure ()
  | cons item items ih =>
      cases item with
      | table name =>
          unfold insert
          exact .bind (.log _ _) fun _ => ih
      | row row =>
          unfold insert
          refine .ask (.send c (.run (row.batch plan.dialect)) fun answer => ⟨row, answer, rfl⟩)
            ?_ ?_
          · exact fun answer => .bind (.ofExcept _ answer) fun _ => ih
          · exact fun answer hbad => (fails_ofExcept hbad).bind

theorem restoreFrom_sends (backup : Path) :
    Sends (σ := σ) c.dialect (Exchange.Inserts plan.dialect)
      (plan.restoreFrom c.client backup) := by
  have hread (document : Path) :
      Sends (σ := σ) c.dialect (Exchange.Inserts plan.dialect)
        (plan.readDocument c.client document) := by
    unfold readDocument
    refine .bind .files fun t => .bind (.ofExcept _ _) fun content => ?_
    refine .bind (plan.insert_sends c _) fun _ => ?_
    split
    · exact .fail _
    · exact .pure _
  have hremove (document : Path) : Sends (σ := σ) c.dialect (Exchange.Inserts plan.dialect)
      (removeDocument document) := by
    unfold removeDocument
    exact .bind .files fun t => .ite (.change _ _) (.pure ())
  unfold restoreFrom
  refine .ite (.bind (unpack_sends _ _) fun document => ?_) (hread backup)
  exact .ensuring (hread document) (hremove document)

/-- It is found that the table is empty. -/
abbrev foundEmpty (t : Table) : Exchange :=
  .select ⟨t.name, none, some 1⟩ (.ok [])

theorem hasContent_does (t : Table) (s : Workspace (Network σ)) :
    ∃ answer s', Does c.dialect (Work.ask (c.client.hasContent t.name) : Work _ RepositoryError _) s
        [.select ⟨t.name, none, some 1⟩ answer] (.ok (answer.map fun rows => !rows.isEmpty)) s'
      ∧ s'.files = s.files :=
  ⟨_, _, .ask (.send c (.select ⟨t.name, none, some 1⟩) s.remote), rfl⟩

/-- It is asked about tables whether they have content, and if none has it was answered for each
that there are no rows. -/
theorem nonEmpty_does (ts : List Table) (s : Workspace (Network σ)) :
    ∃ xs outcome s', Does c.dialect (nonEmpty c.client ts) s xs outcome s' ∧ s'.files = s.files
      ∧ (∀ x ∈ xs, x.IsRead) ∧ (outcome = .ok [] → xs = ts.map foundEmpty) := by
  induction ts generalizing s with
  | nil => exact ⟨[], .ok [], s, .silent rfl rfl, rfl, List.forall_mem_nil _, fun _ => rfl⟩
  | cons t ts ih =>
      obtain ⟨answer, s₁, hasked, hfiles⟩ := hasContent_does c t s
      have hread : Exchange.IsRead (.select ⟨t.name, none, some 1⟩ answer) := ⟨_, _, rfl⟩
      unfold nonEmpty
      cases answer with
      | error e =>
          refine ⟨_, _, s₁, hasked.bind_ok (.bind_error (.silent (Work.on_ofExcept_error rfl) rfl)),
            hfiles, ?_, nofun⟩
          exact List.forall_mem_singleton.mpr hread
      | ok rows =>
          obtain ⟨xs, outcome, s₂, hrest, hfiles₂, hreads, hempty⟩ := ih s₁
          have hfull : Does c.dialect
              (Work.ofExcept .server
                  ((Except.ok rows : Except ServerError _).map fun rows => !rows.isEmpty)
                : Work _ RepositoryError _) s₁ [] (.ok (!rows.isEmpty)) s₁ :=
            .silent (Work.on_ofExcept_ok rfl) rfl
          have hall := List.forall_mem_cons.mpr ⟨hread, hreads⟩
          cases outcome with
          | error e =>
              exact ⟨_, _, s₂, hasked.bind_ok (hfull.bind_ok hrest.bind_error),
                hfiles₂.trans hfiles,
                hall, nofun⟩
          | ok rest =>
              refine ⟨_, _, s₂,
                hasked.bind_ok (hfull.bind_ok (hrest.bind_ok (.silent (Work.on_pure _) rfl))),
                hfiles₂.trans hfiles, ?_, fun h => ?_⟩
              · simpa using hall
              · cases rows with
                | nil =>
                    rw [hempty h, List.nil_append, List.append_nil]
                    rfl
                | cons row rows => cases h

/-- What a restoration asks and has done, and how it ends: before it is known that all tables are
empty rows are asked for, and after that rows are inserted. -/
inductive Restores : List Exchange → Except RepositoryError Restored → Prop
  | asked {xs : List Exchange} {e : RepositoryError} : (∀ x ∈ xs, x.IsRead) →
      Restores xs (.error e)
  | inserted {xs : List Exchange} {outcome : Except RepositoryError Restored} :
      (∀ x ∈ xs, x.Inserts plan.dialect) → (IsOk outcome → ∀ x ∈ xs, x.Answered) →
      Restores (plan.database.tables.map foundEmpty ++ xs) outcome

theorem run_does (s : Workspace (Network σ)) :
    ∃ xs outcome s', Does c.dialect (plan.run c.client) s xs outcome s'
      ∧ plan.Restores xs outcome := by
  obtain ⟨xs, outcome, s₁, hasked, -, hreads, hempty⟩ := nonEmpty_does c plan.database.tables s
  unfold run
  cases outcome with
  | error e => exact ⟨xs, _, s₁, hasked.bind_error, .asked hreads⟩
  | ok full =>
      cases full with
      | cons name full =>
          exact ⟨xs, .error (.tablesNotEmpty plan.database.name (name :: full)), s₁,
            hasked.bind_silent (.bind_error (.silent (Work.on_fail _) rfl)), .asked hreads⟩
      | nil =>
          -- no table has content, so from here on all that is sent inserts rows
          have htell (counts : List (String × Nat)) :
              Sends (σ := σ) c.dialect (Exchange.Inserts plan.dialect) (tellCounts counts) := by
            induction counts with
            | nil => exact .pure ()
            | cons count counts ih => exact .bind (.log _ _) fun _ => ih
          have hrest : Sends (σ := σ) c.dialect (Exchange.Inserts plan.dialect) (do
              let backup ← Work.ofExcept id (plan.source (← Work.files))
              Work.log .info ("Using " ++ backup.toText)
              let rows ← plan.restoreFrom c.client backup
              let inserted := counts plan.database rows
              tellCounts inserted
              return (⟨backup, inserted⟩ : Restored)) := by
            refine .bind .files fun t => .bind (.ofExcept _ _) fun backup =>
              .bind (.log _ _) fun _ => ?_
            refine .bind (plan.restoreFrom_sends c backup) fun rows => ?_
            exact .bind (htell _) fun _ => .pure _
          obtain ⟨ys, outcome, s', hdoes, hinserts, hanswered⟩ := hrest s₁
          rw [hempty rfl] at hasked
          exact ⟨_, outcome, s', hasked.bind_ok hdoes, .inserted hinserts hanswered⟩

end RestorePlan

end Repository

end Tablekeep
