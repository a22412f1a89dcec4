import Tablekeep.Proofs.Repository.Unpack
import Tablekeep.Repository.Restore

/-!
# Watching a client

What a run does to a server is seen from outside. `Client.traced` is the client that answers
as the client does and writes down what it was asked and what it answered. Work that is done
with it comes to what the work comes to without, so that what is shown of watched runs is
shown of all.
-/

namespace Tablekeep

open Files Repository

variable {ρ ε ε' α β : Type}

/-- What a client was asked, with its answers, in order. -/
structure Trace where
  /-- The tables, with whether they have content. -/
  asked : List (String × Except ServerError Bool)
  /-- The statements, with what came of them. -/
  executed : List (String × Except ServerError Unit)

/-- Nothing was asked yet. -/
def Trace.empty : Trace :=
  ⟨[], []⟩

namespace Client

/-- The client, watched. -/
def traced (client : Client ρ) : Client (ρ × Trace) where
  rows request := do
    let (r, trace) ← get
    let (answer, r) := (client.rows request).run r
    set (r, trace)
    return answer
  hasContent table := do
    let (r, trace) ← get
    let (answer, r) := (client.hasContent table).run r
    set (r, { trace with asked := trace.asked ++ [(table, answer)] })
    return answer
  execute statement := do
    let (r, trace) ← get
    let (answer, r) := (client.execute statement).run r
    set (r, { trace with executed := trace.executed ++ [(statement, answer)] })
    return answer

theorem traced_hasContent_on (client : Client ρ) (table : String) (s : Workspace (ρ × Trace)) :
    ∃ s' answer, (Work.ask (client.traced.hasContent table) : Work (ρ × Trace) ε _).on s
        = (.ok answer, s') ∧ s'.files = s.files
      ∧ s'.remote.2 = ⟨s.remote.2.asked ++ [(table, answer)], s.remote.2.executed⟩ := by
  rw [Work.on_ask]
  exact ⟨_, _, rfl, rfl, rfl⟩

theorem traced_execute_on (client : Client ρ) (statement : String) (s : Workspace (ρ × Trace)) :
    ∃ s' answer, (Work.ask (client.traced.execute statement) : Work (ρ × Trace) ε _).on s
        = (.ok answer, s') ∧ s'.files = s.files
      ∧ s'.remote.2 = ⟨s.remote.2.asked, s.remote.2.executed ++ [(statement, answer)]⟩ := by
  rw [Work.on_ask]
  exact ⟨_, _, rfl, rfl, rfl⟩

end Client

/-- The workspace without the trace. -/
def Workspace.untraced (s : Workspace (ρ × Trace)) : Workspace ρ :=
  ⟨s.files, s.journal, s.remote.1⟩

/-! ## Work that is watched -/

/-- The work `w`, which is watched, comes to what `w'` comes to. -/
def Work.Watches (w : Work (ρ × Trace) ε α) (w' : Work ρ ε α) : Prop :=
  ∀ s, w'.on s.untraced = ((w.on s).1, (w.on s).2.untraced)

namespace Work.Watches

theorem pure (a : α) : Watches (Pure.pure a : Work (ρ × Trace) ε α) (Pure.pure a) :=
  fun _ => rfl

theorem fail (e : ε) : Watches (Work.fail e : Work (ρ × Trace) ε α) (Work.fail e) :=
  fun _ => rfl

theorem files : Watches (Work.files : Work (ρ × Trace) ε FileTree) Work.files :=
  fun _ => rfl

theorem log (level : Level) (text : String) :
    Watches (Work.log level text : Work (ρ × Trace) ε Unit) (Work.log level text) :=
  fun _ => rfl

theorem setFiles (t : FileTree) :
    Watches (Work.setFiles t : Work (ρ × Trace) ε Unit) (Work.setFiles t) :=
  fun _ => rfl

theorem ofExcept (f : ε' → ε) (x : Except ε' α) :
    Watches (Work.ofExcept f x : Work (ρ × Trace) ε α) (Work.ofExcept f x) := by
  cases x with
  | ok a => exact .pure a
  | error e => exact .fail (f e)

theorem ask {x : StateM (ρ × Trace) α} {x' : StateM ρ α}
    (h : ∀ q, x'.run q.1 = ((x.run q).1, (x.run q).2.1)) :
    Watches (Work.ask x : Work (ρ × Trace) ε α) (Work.ask x') := by
  intro s
  have hasked : (Work.ask x' : Work ρ ε α).on s.untraced
      = (.ok (x'.run s.remote.1).1, ⟨s.files, s.journal, (x'.run s.remote.1).2⟩) := rfl
  rw [hasked, h s.remote]
  rfl

theorem bind {w : Work (ρ × Trace) ε α} {w' : Work ρ ε α} {f : α → Work (ρ × Trace) ε β}
    {f' : α → Work ρ ε β} (hw : Watches w w') (hf : ∀ a, Watches (f a) (f' a)) :
    Watches (w >>= f) (w' >>= f') := by
  intro s
  have hs := hw s
  cases hon : w.on s with
  | mk outcome s' =>
      rw [hon] at hs
      cases outcome with
      | error e => rw [Work.on_bind_error hs, Work.on_bind_error hon]
      | ok a =>
          rw [Work.on_bind_ok hs, Work.on_bind_ok hon]
          exact hf a s'

theorem change (f : FileError → ε) (g : FileTree → Except FileError FileTree) :
    Watches (Work.change f g : Work (ρ × Trace) ε Unit) (Work.change f g) := by
  unfold Work.change
  exact .bind .files fun t => .bind (.ofExcept f (g t)) fun t => .setFiles t

theorem ensuring {w : Work (ρ × Trace) ε α} {w' : Work ρ ε α} {after : Work (ρ × Trace) ε Unit}
    {after' : Work ρ ε Unit} (hw : Watches w w') (hafter : Watches after after') :
    Watches (Work.ensuring w after) (Work.ensuring w' after') := by
  have hattempt : Watches (Work.attempt w : Work (ρ × Trace) ε (Except ε α)) (Work.attempt w') := by
    intro s
    change (Except.ok (w'.on s.untraced).1, (w'.on s.untraced).2) = _
    rw [hw s]
    rfl
  unfold Work.ensuring
  exact .bind hattempt fun outcome => .bind hafter fun _ => .ofExcept id outcome

theorem ite {c : Prop} [Decidable c] {w v : Work (ρ × Trace) ε α} {w' v' : Work ρ ε α}
    (hw : Watches w w') (hv : Watches v v') :
    Watches (if c then w else v) (if c then w' else v') := by
  split
  · exact hw
  · exact hv

/-- So it is with work that is done unless there is a reason to fail. -/
theorem guard {c : Prop} [Decidable c] (e : ε) {w : Work (ρ × Trace) ε α} {w' : Work ρ ε α}
    (hw : Watches w w') :
    Watches (if c then (Work.fail e : Work (ρ × Trace) ε Unit) >>= fun _ => w else w)
      (if c then (Work.fail e : Work ρ ε Unit) >>= fun _ => w' else w') :=
  .ite (.bind (.fail e) fun _ => hw) hw

end Work.Watches

/-! ## Runs that are watched -/

namespace Repository

open Work

theorem place_watches (path : Path) (content : List UInt8) :
    Watches (place path content : Work (ρ × Trace) RepositoryError Unit) (place path content) := by
  unfold place
  refine .bind .files fun t => .ite ?_ (.change _ _)
  exact .bind (.change _ _) fun _ => .change _ _

theorem unpack_watches (archive repository : Path) :
    Watches (unpack archive repository : Work (ρ × Trace) RepositoryError Path)
      (unpack archive repository) := by
  intro s
  have hfiles : s.untraced.files = s.files := rfl
  rw [unpack_on, unpack_on, hfiles]
  cases packedDocument s.files archive repository with
  | error e => rfl
  | ok found =>
      have hplace := Watches.bind (place_watches (ρ := ρ) found.1.collapse found.2)
        fun _ => Watches.pure found.1
      exact hplace s

namespace RestorePlan

variable (plan : RestorePlan) (client : Client ρ)

theorem nonEmpty_watches (ts : List Table) :
    Watches (nonEmpty client.traced ts) (nonEmpty client ts) := by
  induction ts with
  | nil => exact .pure []
  | cons t ts ih =>
      unfold nonEmpty
      refine .bind (.ask fun _ => rfl) fun answer => .bind (.ofExcept _ answer) fun full => ?_
      exact .bind ih fun rest => .pure _

theorem insert_watches (items : List Backup.ReadItem) :
    Watches (plan.insert client.traced items) (plan.insert client items) := by
  induction items with
  | nil => exact .pure ()
  | cons item items ih =>
      cases item with
      | table name =>
          unfold insert
          exact .bind (.log _ _) fun _ => ih
      | row row =>
          unfold insert
          exact .bind (.ask fun _ => rfl) fun answer => .bind (.ofExcept _ answer) fun _ => ih

theorem readDocument_watches (document : Path) :
    Watches (plan.readDocument client.traced document) (plan.readDocument client document) := by
  unfold readDocument
  refine .bind .files fun t => .bind (.ofExcept _ _) fun content => ?_
  refine .bind (plan.insert_watches client _) fun _ => ?_
  split
  · exact .fail _
  · exact .pure _

theorem removeDocument_watches (document : Path) :
    Watches (removeDocument document : Work (ρ × Trace) RepositoryError Unit)
      (removeDocument document) := by
  unfold removeDocument
  exact .bind .files fun t => .ite (.change _ _) (.pure ())

theorem restoreFrom_watches (backup : Path) :
    Watches (plan.restoreFrom client.traced backup) (plan.restoreFrom client backup) := by
  unfold restoreFrom
  refine .ite (.bind (unpack_watches _ _) fun document => ?_) (plan.readDocument_watches client _)
  exact .ensuring (plan.readDocument_watches client document) (removeDocument_watches document)

theorem tellCounts_watches (counts : List (String × Nat)) :
    Watches (tellCounts counts : Work (ρ × Trace) RepositoryError Unit) (tellCounts counts) := by
  induction counts with
  | nil => exact .pure ()
  | cons count counts ih =>
      unfold tellCounts
      exact .bind (.log _ _) fun _ => ih

/-- **A run that is watched is the run.** -/
theorem run_watches : Watches (plan.run client.traced) (plan.run client) := by
  unfold run
  refine .bind (nonEmpty_watches client _) fun full => ?_
  refine .guard _ (.bind .files fun t => .bind (.ofExcept id _) fun backup => ?_)
  refine .bind (.log _ _) fun _ => .bind (plan.restoreFrom_watches client backup) fun rows => ?_
  exact .bind (tellCounts_watches _) fun _ => .pure _

end RestorePlan

end Repository

end Tablekeep
