import Tablekeep.Workspace

/-!
# What work does

`Work.on` takes a piece of work to its outcome and the workspace afterwards. There is one
lemma for each way in which work is put together, so that a run can be followed without
looking at how work is represented. An error ends the work, and what was done stays done.
-/

namespace Tablekeep.Work

open Files

variable {ρ ε ε' α β : Type} {w : Work ρ ε α} {s s' : Workspace ρ}

theorem on_pure (a : α) : (pure a : Work ρ ε α).on s = (.ok a, s) := rfl

theorem on_fail (e : ε) : (fail e : Work ρ ε α).on s = (.error e, s) := rfl

/-- What follows goes on from the workspace that was left, -/
theorem on_bind_ok {f : α → Work ρ ε β} {a : α} (h : w.on s = (.ok a, s')) :
    (w >>= f).on s = (f a).on s' := by
  change (ExceptT.bindCont f (w.on s).1).run (w.on s).2 = _
  rw [h]
  rfl

/-- if there is anything that follows. -/
theorem on_bind_error {f : α → Work ρ ε β} {e : ε} (h : w.on s = (.error e, s')) :
    (w >>= f).on s = (.error e, s') := by
  change (ExceptT.bindCont f (w.on s).1).run (w.on s).2 = _
  rw [h]
  rfl

/-- What ends well has begun well. -/
theorem on_bind_eq_ok {f : α → Work ρ ε β} {b : β} (h : (w >>= f).on s = (.ok b, s')) :
    ∃ a s₁, w.on s = (.ok a, s₁) ∧ (f a).on s₁ = (.ok b, s') := by
  cases hon : w.on s with
  | mk outcome s₁ =>
      cases outcome with
      | error e =>
          rw [on_bind_error hon] at h
          cases h
      | ok a =>
          rw [on_bind_ok hon] at h
          exact ⟨a, s₁, rfl, h⟩

theorem on_ofExcept_ok {f : ε' → ε} {x : Except ε' α} {a : α} (h : x = .ok a) :
    (ofExcept f x : Work ρ ε α).on s = (.ok a, s) := by
  rw [h]
  rfl

theorem on_ofExcept_error {f : ε' → ε} {x : Except ε' α} {e : ε'} (h : x = .error e) :
    (ofExcept f x : Work ρ ε α).on s = (.error (f e), s) := by
  rw [h]
  rfl

theorem on_files : (files : Work ρ ε FileTree).on s = (.ok s.files, s) := rfl

theorem on_tell (e : Entry) :
    (tell e : Work ρ ε Unit).on s = (.ok (), { s with journal := s.journal ++ [e] }) := rfl

theorem on_log (level : Level) (text : String) :
    (log level text : Work ρ ε Unit).on s
      = (.ok (), { s with journal := s.journal ++ [.record level text] }) := rfl

theorem on_ask (x : StateM ρ α) :
    (ask x : Work ρ ε α).on s
      = (.ok (x.run s.remote).1, { s with remote := (x.run s.remote).2 }) := rfl

theorem on_change_ok {f : FileError → ε} {g : FileTree → Except FileError FileTree}
    {t : FileTree} (h : g s.files = .ok t) :
    (change f g : Work ρ ε Unit).on s = (.ok (), { s with files := t }) := by
  rw [change, on_bind_ok on_files, on_bind_ok (on_ofExcept_ok h)]
  rfl

theorem on_change_error {f : FileError → ε} {g : FileTree → Except FileError FileTree}
    {e : FileError} (h : g s.files = .error e) :
    (change f g : Work ρ ε Unit).on s = (.error (f e), s) := by
  rw [change, on_bind_ok on_files, on_bind_error (on_ofExcept_error h)]

/-- The outcome of an attempt is a value, so that an attempt always succeeds. -/
theorem on_attempt {outcome : Except ε α} (h : w.on s = (outcome, s')) :
    (attempt w : Work ρ ε' (Except ε α)).on s = (.ok outcome, s') := by
  change ((Except.ok (w.on s).1 : Except ε' (Except ε α)), (w.on s).2) = _
  rw [h]

theorem on_rename {f : ε → ε'} {outcome : Except ε α} (h : w.on s = (outcome, s')) :
    (rename f w).on s = (outcome.mapError f, s') := by
  change ((w.on s).1.mapError f, (w.on s).2) = _
  rw [h]

/-- What is to be done in any case is done, and if it can be done the outcome is the one of the
work. -/
theorem on_ensuring {after : Work ρ ε Unit} {outcome : Except ε α} {s₁ : Workspace ρ}
    (hw : w.on s = (outcome, s₁)) (hafter : after.on s₁ = (.ok (), s')) :
    (ensuring w after).on s = (outcome, s') := by
  rw [ensuring, on_bind_ok (on_attempt hw), on_bind_ok hafter]
  cases outcome with
  | ok a => exact on_ofExcept_ok rfl
  | error e => exact on_ofExcept_error rfl

end Tablekeep.Work
