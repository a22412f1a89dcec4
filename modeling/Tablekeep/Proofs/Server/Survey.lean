import Tablekeep.Definition.Basic
import Tablekeep.Server.Source
import Mathlib.Data.List.Forall2

/-!
# Going through the tables

Digests and checks ask a source for the rows of one table after another, and make something of each
answer. A `Survey` is what such a round asks for and what it makes of it. The source may be anything
that answers: it has a state, and each answer may depend on all that was asked before.

A round ends in one of three ways, which are the constructors of `Survey.Ends`: something was made
of every table, the source refused, or nothing could be made of the rows that it gave. In each of
them everything before the end has gone well, and nothing was asked after it.
-/

namespace Tablekeep

/-- What follows goes on from the state that was left. -/
theorem run_bind_of_eq {σ α β : Type} {x : StateM σ α} {f : α → StateM σ β} {s s₁ : σ} {a : α}
    (h : x.run s = (a, s₁)) : (x >>= f).run s = (f a).run s₁ := by
  change ((f (x.run s).1).run (x.run s).2) = _
  rw [h]

variable {τ ε δ κ α : Type}

/-- What is asked of a source for each table, and what is made of the answers. -/
structure Survey (ε δ κ α : Type) where
  request : Table → RowRequest
  make : Table → List Row → Except δ α
  /-- The error of the round if the source refuses. -/
  refused : ε → κ
  /-- The error of the round if nothing can be made of the rows. -/
  unfit : δ → κ

namespace Survey

/-- The source gives rows for each of the tables, one after another, and something is made of all of
them. -/
inductive Makes (survey : Survey ε δ κ α) (source : Source (StateM τ) ε) :
    τ → List (Table × List Row) → List α → τ → Prop
  | nil (s : τ) : Makes survey source s [] [] s
  | cons {s s₁ s' : τ} {t : Table} {rows : List Row} {a : α} {given : List (Table × List Row)}
      {made : List α} : (source (survey.request t)).run s = (.ok rows, s₁) →
      survey.make t rows = .ok a → Makes survey source s₁ given made s' →
      Makes survey source s ((t, rows) :: given) (a :: made) s'

/-- How a round through the tables ends: its outcome and the state of the source. -/
inductive Ends (survey : Survey ε δ κ α) (source : Source (StateM τ) ε) (s : τ) :
    List Table → Except κ (List α) → τ → Prop
  | done {given : List (Table × List Row)} {made : List α} {s' : τ} :
      survey.Makes source s given made s' → Ends survey source s (given.map (·.1)) (.ok made) s'
  | refused {given : List (Table × List Row)} {made : List α} {s₁ s' : τ} {t : Table} {e : ε}
      (later : List Table) : survey.Makes source s given made s₁ →
      (source (survey.request t)).run s₁ = (.error e, s') →
      Ends survey source s (given.map (·.1) ++ t :: later) (.error (survey.refused e)) s'
  | unfit {given : List (Table × List Row)} {made : List α} {s₁ s' : τ} {t : Table}
      {rows : List Row} {e : δ} (later : List Table) : survey.Makes source s given made s₁ →
      (source (survey.request t)).run s₁ = (.ok rows, s') → survey.make t rows = .error e →
      Ends survey source s (given.map (·.1) ++ t :: later) (.error (survey.unfit e)) s'

variable {survey : Survey ε δ κ α} {source : Source (StateM τ) ε} {s s₁ s' : τ}

/-- One table more, of which something is made before all others. -/
theorem Ends.cons {t : Table} {rows : List Row} {a : α} {ts : List Table}
    {outcome : Except κ (List α)} (hrows : (source (survey.request t)).run s = (.ok rows, s₁))
    (hmade : survey.make t rows = .ok a) (h : survey.Ends source s₁ ts outcome s') :
    survey.Ends source s (t :: ts) (outcome.map (a :: ·)) s' := by
  cases h with
  | done h => exact .done (.cons hrows hmade h)
  | refused later h hrefused => exact .refused later (.cons hrows hmade h) hrefused
  | unfit later h hgiven hunfit => exact .unfit later (.cons hrows hmade h) hgiven hunfit

/-- The source refuses at the first table, -/
theorem Ends.refused_first {t : Table} {e : ε} (later : List Table)
    (h : (source (survey.request t)).run s = (.error e, s')) :
    survey.Ends source s (t :: later) (.error (survey.refused e)) s' :=
  .refused later (.nil s) h

/-- or nothing can be made of its rows. -/
theorem Ends.unfit_first {t : Table} {rows : List Row} {e : δ} (later : List Table)
    (h : (source (survey.request t)).run s = (.ok rows, s'))
    (hunfit : survey.make t rows = .error e) :
    survey.Ends source s (t :: later) (.error (survey.unfit e)) s' :=
  .unfit later (.nil s) h hunfit

/-- A round with a result has gone through all of the tables. -/
theorem Ends.makes {ts : List Table} {made : List α} (h : survey.Ends source s ts (.ok made) s') :
    ∃ given, given.map (·.1) = ts ∧ survey.Makes source s given made s' := by
  cases h with
  | done h => exact ⟨_, rfl, h⟩

/-- What was made is of the rows that were given, table by table. -/
theorem Makes.forall₂ {given : List (Table × List Row)} {made : List α}
    (h : survey.Makes source s given made s') :
    List.Forall₂ (fun p a => survey.make p.1 p.2 = .ok a) given made := by
  induction h with
  | nil => exact .nil
  | cons _ hmade _ ih => exact .cons hmade ih

/-- And the source gives the same rows if nothing is made of them. -/
theorem Makes.run_eq {given : List (Table × List Row)} {made : List α}
    (h : survey.Makes source s given made s') :
    ((given.map (·.1)).mapM fun t => source (survey.request t)).run s
      = ((given.map (·.2)).map .ok, s') := by
  induction h with
  | nil => rfl
  | cons hrows _ _ ih =>
      rw [List.map_cons, List.mapM_cons, run_bind_of_eq hrows, run_bind_of_eq ih]
      rfl

end Survey

end Tablekeep
