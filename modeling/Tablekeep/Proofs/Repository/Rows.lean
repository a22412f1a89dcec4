import Tablekeep.Proofs.Repository.Trace

/-!
# Asking and inserting

A run asks about tables one after another, and inserts rows one after another, until an answer is
an error. There is one inductive relation for each of the two between what was to be done, what
the client was asked, and the outcome; and one for a whole document, which may also end because it
cannot be read any further. The files stay as they are.
-/

namespace Tablekeep.Repository

open Files Backup

variable {ρ : Type}

/-! ## Asking whether tables have content -/

/-- The answers about tables of which it is known whether they have content. -/
def answered (known : List (Table × Bool)) : List (String × Except ServerError Bool) :=
  known.map fun (t, full) => (t.name, .ok full)

/-- How asking about tables ends: one answer is missing, or all are there. -/
inductive Asking (ts : List Table) :
    List (String × Except ServerError Bool) → Except RepositoryError (List String) → Prop
  | unanswered (known : List (Table × Bool)) {t : Table} {after : List Table} {e : ServerError} :
      ts = known.map (·.1) ++ t :: after →
      Asking ts (answered known ++ [(t.name, .error e)]) (.error (.server e))
  | answered (known : List (Table × Bool)) : ts = known.map (·.1) →
      Asking ts (answered known) (.ok ((known.filter (·.2)).map (·.1.name)))

namespace RestorePlan

variable (plan : RestorePlan) (client : Client ρ)

theorem nonEmpty_on (ts : List Table) (s : Workspace (ρ × Trace)) :
    ∃ s' answers outcome, (nonEmpty client.traced ts).on s = (outcome, s')
      ∧ Asking ts answers outcome ∧ s'.files = s.files
      ∧ s'.remote.2 = ⟨s.remote.2.asked ++ answers, s.remote.2.executed⟩ := by
  induction ts generalizing s with
  | nil =>
      refine ⟨s, [], .ok [], rfl, ?_, rfl, by rw [List.append_nil]⟩
      exact .answered [] rfl
  | cons t ts ih =>
      obtain ⟨s₁, answer, hask, hfiles₁, htrace₁⟩ := client.traced_hasContent_on t.name s
      unfold nonEmpty
      rw [Work.on_bind_ok hask]
      cases answer with
      | error e =>
          refine ⟨s₁, _, _, Work.on_bind_error (Work.on_ofExcept_error rfl), ?_, hfiles₁, htrace₁⟩
          exact .unanswered [] rfl
      | ok full =>
          obtain ⟨s₂, answers, outcome, hrest, hasking, hfiles₂, htrace₂⟩ := ih s₁
          rw [Work.on_bind_ok (Work.on_ofExcept_ok rfl)]
          refine ⟨s₂, (t.name, .ok full) :: answers, ?_⟩
          rw [hfiles₂, htrace₂, hfiles₁, htrace₁, List.append_assoc, List.singleton_append]
          cases hasking with
          | unanswered known hts =>
              refine ⟨_, Work.on_bind_error hrest, ?_, rfl, rfl⟩
              exact .unanswered ((t, full) :: known) (congrArg (t :: ·) hts)
          | answered known hts =>
              refine ⟨_, Work.on_bind_ok hrest, ?_, rfl, rfl⟩
              have hasking := Asking.answered ((t, full) :: known) (congrArg (t :: ·) hts)
              cases full <;> exact hasking

end RestorePlan

/-! ## Inserting rows -/

/-- Statements for rows that were carried out. -/
def carriedOut (d : Dialect) (rows : List RowInsert) : List (String × Except ServerError Unit) :=
  rows.map fun row => (row.batch d, .ok ())

/-- How inserting rows ends: one is rejected, or all are inserted. -/
inductive Inserting (d : Dialect) (rows : List RowInsert) :
    List (String × Except ServerError Unit) → Except RepositoryError Unit → Prop
  | rejected (done : List RowInsert) {row : RowInsert} {after : List RowInsert} {e : ServerError} :
      rows = done ++ row :: after →
      Inserting d rows (carriedOut d done ++ [(row.batch d, .error e)]) (.error (.server e))
  | inserted : Inserting d rows (carriedOut d rows) (.ok ())

namespace RestorePlan

variable (plan : RestorePlan) (client : Client ρ)

theorem insert_on (items : List ReadItem) (failure : Option ReadError) (s : Workspace (ρ × Trace)) :
    ∃ s' statements outcome, (plan.insert client.traced items).on s = (outcome, s')
      ∧ Inserting plan.dialect (⟨items, failure⟩ : ReadResult).rows statements outcome
      ∧ s'.files = s.files
      ∧ s'.remote.2 = ⟨s.remote.2.asked, s.remote.2.executed ++ statements⟩ := by
  induction items generalizing s with
  | nil => exact ⟨s, [], .ok (), rfl, .inserted, rfl, by rw [List.append_nil]⟩
  | cons item items ih =>
      cases item with
      | table name =>
          -- that a table begins is only told
          unfold insert
          rw [Work.on_bind_ok (Work.on_log _ _)]
          exact ih _
      | row row =>
          obtain ⟨s₁, answer, hask, hfiles₁, htrace₁⟩ :=
            client.traced_execute_on (row.batch plan.dialect) s
          unfold insert
          rw [Work.on_bind_ok hask]
          cases answer with
          | error e =>
              refine ⟨s₁, _, _, ?_, .rejected [] rfl, hfiles₁, htrace₁⟩
              exact Work.on_bind_error (Work.on_ofExcept_error rfl)
          | ok =>
              obtain ⟨s₂, statements, outcome, hrest, hinserting, hfiles₂, htrace₂⟩ := ih s₁
              rw [Work.on_bind_ok (Work.on_ofExcept_ok rfl)]
              refine ⟨s₂, (row.batch plan.dialect, .ok ()) :: statements, outcome, hrest, ?_, ?_⟩
              · cases hinserting with
                | rejected done hrows => exact .rejected (row :: done) (congrArg (row :: ·) hrows)
                | inserted => exact .inserted
              · rw [hfiles₂, htrace₂, hfiles₁, htrace₁, List.append_assoc, List.singleton_append]
                exact ⟨rfl, rfl⟩

end RestorePlan

/-! ## Restoring a document -/

/-- How restoring a document ends: a row is rejected, the document cannot be read any further, or
all rows are inserted. -/
inductive Restoring (d : Dialect) (result : ReadResult) :
    List (String × Except ServerError Unit) → Except RepositoryError (List RowInsert) → Prop
  | rejected (done : List RowInsert) {row : RowInsert} {after : List RowInsert} {e : ServerError} :
      result.rows = done ++ row :: after →
      Restoring d result (carriedOut d done ++ [(row.batch d, .error e)]) (.error (.server e))
  | unreadable {e : ReadError} : result.failure = some e →
      Restoring d result (carriedOut d result.rows) (.error (.read e))
  | restored : result.failure = none →
      Restoring d result (carriedOut d result.rows) (.ok result.rows)

namespace RestorePlan

/-- The reader of the documents of the database. -/
def reader (plan : RestorePlan) : Backup.Reader :=
  ⟨plan.database, plan.plural, plan.zone⟩

variable (plan : RestorePlan) (client : Client ρ)

/-- Everything is inserted that could be read, and then the error is met, if there is one. -/
theorem insert_result_on (result : ReadResult) (s : Workspace (ρ × Trace)) :
    ∃ s' statements outcome,
      (plan.insert client.traced result.items >>= fun _ =>
        match result.failure with
        | some e => Work.fail (.read e)
        | none => pure result.rows).on s = (outcome, s')
      ∧ Restoring plan.dialect result statements outcome ∧ s'.files = s.files
      ∧ s'.remote.2 = ⟨s.remote.2.asked, s.remote.2.executed ++ statements⟩ := by
  obtain ⟨items, failure⟩ := result
  obtain ⟨s', statements, outcome, hinsert, hinserting, hfiles, htrace⟩ :=
    plan.insert_on client items failure s
  refine ⟨s', statements, ?_⟩
  cases hinserting with
  | rejected done hrows =>
      exact ⟨_, Work.on_bind_error hinsert, .rejected done hrows, hfiles, htrace⟩
  | inserted =>
      cases failure with
      | none => exact ⟨_, Work.on_bind_ok hinsert, .restored rfl, hfiles, htrace⟩
      | some e => exact ⟨_, Work.on_bind_ok hinsert, .unreadable rfl, hfiles, htrace⟩

theorem readDocument_on {s : Workspace (ρ × Trace)} {document : Path} {content : Content}
    (h : s.files.read document = .ok content) :
    ∃ s' statements outcome, (plan.readDocument client.traced document).on s = (outcome, s')
      ∧ Restoring plan.dialect (plan.reader.read content.toBytes) statements outcome
      ∧ s'.files = s.files
      ∧ s'.remote.2 = ⟨s.remote.2.asked, s.remote.2.executed ++ statements⟩ := by
  unfold readDocument
  rw [Work.on_bind_ok Work.on_files, Work.on_bind_ok (Work.on_ofExcept_ok h)]
  exact plan.insert_result_on client (plan.reader.read content.toBytes) s

theorem readDocument_on_error {s : Workspace (ρ × Trace)} {document : Path} {e : FileError}
    (h : s.files.read document = .error e) :
    (plan.readDocument client.traced document).on s = (.error (.file e), s) := by
  unfold readDocument
  rw [Work.on_bind_ok Work.on_files, Work.on_bind_error (Work.on_ofExcept_error h)]

theorem removeDocument_on {s : Workspace (ρ × Trace)} {document : Path} {t : FileTree}
    (hpresent : s.files.present document = true) (h : s.files.remove document = .ok t) :
    (removeDocument document).on s = (.ok (), { s with files := t }) := by
  unfold removeDocument
  rw [Work.on_bind_ok Work.on_files, if_pos hpresent]
  exact Work.on_change_ok h

theorem removeDocument_on_absent {s : Workspace (ρ × Trace)} {document : Path}
    (h : s.files.present document = false) : (removeDocument document).on s = (.ok (), s) := by
  unfold removeDocument
  rw [Work.on_bind_ok Work.on_files, if_neg (by simp [h])]
  rfl

end RestorePlan

end Tablekeep.Repository
