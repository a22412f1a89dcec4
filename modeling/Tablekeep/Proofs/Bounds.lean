import Tablekeep.Proofs.Workspace

/-!
# Work within bounds

What work may make of a workspace is often said of each of its steps: of every file that it writes,
and of everything that it says to a server. `Bounds` are two such relations, one for the files and
one for the servers. They hold of doing nothing and of one thing done after another, so that work is
within bounds if its steps are. What the user is told is free.
-/

namespace Tablekeep

open Files

/-- What may be made of the files, and what of the servers. -/
structure Bounds (ρ : Type) where
  files : FileTree → FileTree → Prop
  remote : ρ → ρ → Prop
  files_refl : ∀ t, files t t
  files_trans : ∀ {t u v}, files t u → files u v → files t v
  remote_refl : ∀ r, remote r r
  remote_trans : ∀ {p q r}, remote p q → remote q r → remote p r

variable {ρ ε ε' α β : Type} {b : Bounds ρ}

/-! ## Asking -/

/-- Whatever the state of the servers, asking leaves them within bounds. -/
def Bounds.Allows (b : Bounds ρ) (x : StateM ρ α) : Prop :=
  ∀ r, b.remote r (x.run r).2

namespace Bounds.Allows

theorem pure (a : α) : b.Allows (Pure.pure a : StateM ρ α) :=
  fun r => b.remote_refl r

theorem bind {x : StateM ρ α} {k : α → StateM ρ β} (hx : b.Allows x) (hk : ∀ a, b.Allows (k a)) :
    b.Allows (x >>= k) :=
  fun r => b.remote_trans (hx r) (hk _ _)

end Bounds.Allows

/-! ## Work -/

namespace Work

/-- Whatever the workspace, the work leaves it within bounds. -/
def Within (b : Bounds ρ) (w : Work ρ ε α) : Prop :=
  ∀ s, b.files s.files (w.on s).2.files ∧ b.remote s.remote (w.on s).2.remote

namespace Within

variable {w : Work ρ ε α}

/-- Neither files nor servers are touched. -/
theorem untouched (h : ∀ s, (w.on s).2.files = s.files ∧ (w.on s).2.remote = s.remote) :
    Within b w := by
  intro s
  obtain ⟨hfiles, hremote⟩ := h s
  rw [hfiles, hremote]
  exact ⟨b.files_refl _, b.remote_refl _⟩

theorem pure (a : α) : Within b (Pure.pure a : Work ρ ε α) :=
  .untouched fun _ => ⟨rfl, rfl⟩

theorem fail (e : ε) : Within b (Work.fail e : Work ρ ε α) :=
  .untouched fun _ => ⟨rfl, rfl⟩

theorem files : Within b (Work.files : Work ρ ε FileTree) :=
  .untouched fun _ => ⟨rfl, rfl⟩

theorem tell (e : Entry) : Within b (Work.tell e : Work ρ ε Unit) :=
  .untouched fun _ => ⟨rfl, rfl⟩

theorem log (level : Level) (text : String) :
    Within b (Work.log level text : Work ρ ε Unit) :=
  .tell _

theorem ofExcept (f : ε' → ε) (x : Except ε' α) : Within b (Work.ofExcept f x : Work ρ ε α) := by
  cases x with
  | ok a => exact .pure a
  | error e => exact .fail (f e)

theorem ask {x : StateM ρ α} (h : b.Allows x) : Within b (Work.ask x : Work ρ ε α) := by
  intro s
  rw [on_ask]
  exact ⟨b.files_refl _, h s.remote⟩

theorem bind {f : α → Work ρ ε β} (hw : Within b w) (hf : ∀ a, Within b (f a)) :
    Within b (w >>= f) := by
  intro s
  obtain ⟨hfiles, hremote⟩ := hw s
  cases hon : w.on s with
  | mk outcome s₁ =>
      rw [hon] at hfiles hremote
      cases outcome with
      | error e =>
          rw [on_bind_error hon]
          exact ⟨hfiles, hremote⟩
      | ok a =>
          obtain ⟨hfiles', hremote'⟩ := hf a s₁
          rw [on_bind_ok hon]
          exact ⟨b.files_trans hfiles hfiles', b.remote_trans hremote hremote'⟩

/-- What follows on a value may rely on what the value is. -/
theorem ofExcept_bind {g : ε' → ε} {x : Except ε' α} {f : α → Work ρ ε β}
    (hf : ∀ a, x = .ok a → Within b (f a)) : Within b (Work.ofExcept g x >>= f) := by
  intro s
  cases x with
  | error e =>
      rw [on_bind_error (on_ofExcept_error rfl)]
      exact ⟨b.files_refl _, b.remote_refl _⟩
  | ok a =>
      rw [on_bind_ok (on_ofExcept_ok rfl)]
      exact hf a rfl s

theorem change {g : FileTree → Except FileError FileTree}
    (h : ∀ t t', g t = .ok t' → b.files t t') (f : FileError → ε) :
    Within b (Work.change f g : Work ρ ε Unit) := by
  intro s
  cases hchange : g s.files with
  | error e =>
      rw [on_change_error hchange]
      exact ⟨b.files_refl _, b.remote_refl _⟩
  | ok t =>
      rw [on_change_ok hchange]
      exact ⟨h _ _ hchange, b.remote_refl _⟩

theorem rename {f : ε → ε'} (hw : Within b w) : Within b (Work.rename f w) := by
  intro s
  have hs := hw s
  cases hon : w.on s with
  | mk outcome s' =>
      rw [hon] at hs
      rw [on_rename hon]
      exact hs

theorem attempt (hw : Within b w) : Within b (Work.attempt w : Work ρ ε' (Except ε α)) := by
  intro s
  have hs := hw s
  cases hon : w.on s with
  | mk outcome s' =>
      rw [hon] at hs
      rw [on_attempt hon]
      exact hs

theorem ensuring {after : Work ρ ε Unit} (hw : Within b w) (hafter : Within b after) :
    Within b (Work.ensuring w after) := by
  unfold Work.ensuring
  exact .bind hw.attempt fun outcome => .bind hafter fun _ => .ofExcept id outcome

theorem ite {c : Prop} [Decidable c] {v : Work ρ ε α} (hw : Within b w) (hv : Within b v) :
    Within b (if c then w else v) := by
  split
  · exact hw
  · exact hv

/-- So it is with work that is done unless there is a reason to fail. -/
theorem guard {c : Prop} [Decidable c] (e : ε) (hw : Within b w) :
    Within b (if c then (Work.fail e : Work ρ ε Unit) >>= fun _ => w else w) :=
  .ite (.bind (.fail e) fun _ => hw) hw

end Within

end Work

/-! ## Silence -/

/-- The files may be changed in any way, and nothing is said to a server. -/
def Bounds.silent (ρ : Type) : Bounds ρ where
  files _ _ := True
  remote r r' := r' = r
  files_refl _ := trivial
  files_trans _ _ := trivial
  remote_refl _ := rfl
  remote_trans h h' := h'.trans h

theorem Work.Within.remote_eq {w : Work ρ ε α} (h : Within (.silent ρ) w)
    {s s' : Workspace ρ} {outcome : Except ε α} (hon : w.on s = (outcome, s')) :
    s'.remote = s.remote := by
  have hs := (h s).2
  rw [hon] at hs
  exact hs

end Tablekeep
