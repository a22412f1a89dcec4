import Mathlib.Data.List.Basic
import Tablekeep.Proofs.Command.Attempt
import Tablekeep.Server.Memory
import Tablekeep.Server.Offline

/-!
# An action on all databases

An action on all databases takes the databases of the server in the order in which the server lists
them. One that has no definition in the repository is skipped, any other is attempted, and neither
what was attempted before nor what came of it has any bearing on whether and when it is its turn.
`Rounds` says just that: each turn starts from what the turns before it left, and there is one turn
for each name.

One thing stops the rounds. Whether a definition is text is found out before the attempt has begun,
in which failures are told, and so a definition that is no text stops the program: it is not
counted as a failure, and the databases after it have no turn. `carryOut_all` says that this is the
only way in which the rounds stop early, and that otherwise the exit code is that of failure if and
only if some attempt failed.
-/

namespace Tablekeep.Command

open Files Server Repository

variable {σ : Type} [Server σ] (around : Surroundings) (s : Config.Settings) (server : String)
  (action : Action)

/-! ## Turns -/

/-- What becomes of a listed database. -/
inductive Turn where
  /-- There is nothing where its definition would be. -/
  | skipped
  | attempted (done : Bool)
  deriving DecidableEq

/-- How many attempts failed. -/
def failures (turns : List Turn) : Nat :=
  turns.count (.attempted false)

/-- The turns of the databases with the names, one after another. -/
inductive Rounds : Workspace (Network σ) → List String → List Turn → Workspace (Network σ) → Prop
  | finished (w : Workspace (Network σ)) : Rounds w [] [] w
  | skipped {w w₁ w' : Workspace (Network σ)} {name : String} {names : List String}
      {turns : List Turn} :
      w.files.present (definitionAt s name) = false → OnlyTold w w₁ →
      Rounds w₁ names turns w' → Rounds w (name :: names) (.skipped :: turns) w'
  | attempted {w w₁ w' : Workspace (Network σ)} {name : String} {names : List String} {done : Bool}
      {turns : List Turn} :
      w.files.present (definitionAt s name) = true →
      (actOn around s server action none name).on w = (.ok done, w₁) →
      Rounds w₁ names turns w' → Rounds w (name :: names) (.attempted done :: turns) w'

/-- Every database has one turn. -/
theorem Rounds.length_eq {w w' : Workspace (Network σ)} {names : List String} {turns : List Turn}
    (h : Rounds around s server action w names turns w') : turns.length = names.length := by
  induction h with
  | finished w => rfl
  | skipped _ _ _ ih => exact congrArg (· + 1) ih
  | attempted _ _ _ ih => exact congrArg (· + 1) ih

/-- How it ends to act on databases: all have had their turns, or it is the turn of one whose
definition is no text. -/
inductive Rounded (w : Workspace (Network σ)) (names : List String) :
    Except Failure Nat → Workspace (Network σ) → Prop
  | through {turns : List Turn} {w' : Workspace (Network σ)} :
      Rounds around s server action w names turns w' →
      Rounded w names (.ok (failures turns)) w'
  | stuck {before after : List String} {name : String} {turns : List Turn}
      {fault : Text.Utf8.Fault} {w₁ w' : Workspace (Network σ)} :
      names = before ++ name :: after → Rounds around s server action w before turns w₁ →
      w₁.files.present (definitionAt s name) = true →
      NotText w₁.files (definitionAt s name) fault → OnlyTold w₁ w' →
      Rounded w names (.error (.repository (.notText fault))) w'

variable {around s server action} {w w₁ w' : Workspace (Network σ)} {name : String}
  {names : List String} {outcome : Except Failure Nat}

theorem Rounded.skipped (hmissing : w.files.present (definitionAt s name) = false)
    (htold : OnlyTold w w₁) (h : Rounded around s server action w₁ names outcome w') :
    Rounded around s server action w (name :: names) outcome w' := by
  cases h with
  | through hrounds =>
      rename_i turns
      have hcount : failures (.skipped :: turns) = failures turns :=
        List.count_cons_of_ne (by decide)
      rw [← hcount]
      exact .through (.skipped hmissing htold hrounds)
  | stuck hnames hrounds hpresent hfault hend =>
      exact .stuck (congrArg (name :: ·) hnames) (.skipped hmissing htold hrounds) hpresent hfault
        hend

theorem Rounded.attempted {done : Bool}
    (hthere : w.files.present (definitionAt s name) = true)
    (hact : (actOn around s server action none name).on w = (.ok done, w₁))
    (h : Rounded around s server action w₁ names outcome w') :
    Rounded around s server action w (name :: names)
      (outcome.map fun n => if done then n else n + 1) w' := by
  cases h with
  | through hrounds =>
      rename_i turns
      have hcount : failures (.attempted done :: turns)
          = if done then failures turns else failures turns + 1 := by
        cases done with
        | true => exact List.count_cons_of_ne (by decide)
        | false => exact List.count_cons_self
      change Rounded around s server action w (name :: names) (.ok (ite _ _ _)) w'
      rw [← hcount]
      exact .through (.attempted hthere hact hrounds)
  | stuck hnames hrounds hpresent hfault hend =>
      exact .stuck (congrArg (name :: ·) hnames) (.attempted hthere hact hrounds) hpresent hfault
        hend

variable (around s server action)

theorem actOnEach_on (names : List String) (w : Workspace (Network σ)) :
    ∃ outcome w', (actOnEach around s server action names).on w = (outcome, w')
      ∧ Rounded around s server action w names outcome w' := by
  induction names generalizing w with
  | nil => exact ⟨_, w, rfl, .through (.finished w)⟩
  | cons name names ih =>
      unfold actOnEach
      dsimp only
      rw [Work.on_bind_ok Work.on_files]
      cases hpresent : w.files.present (definitionAt s name) with
      | false =>
          rw [if_pos (by decide), Work.on_bind_ok (say_on _ w)]
          obtain ⟨outcome, w', hon, hrounded⟩ := ih _
          exact ⟨outcome, w', hon, hrounded.skipped hpresent (.entry w _)⟩
      | true =>
          rw [if_neg (by decide)]
          obtain ⟨outcome, w₁, hact, hacted⟩ := actOn_on around s server action none name w
          cases outcome with
          | error e =>
              rw [Work.on_bind_error hact]
              cases hacted with
              | stopped hfault htold =>
                  have hnames : name :: names = [] ++ name :: names := rfl
                  exact ⟨_, w₁, rfl, .stuck hnames (.finished w) hpresent hfault htold⟩
          | ok done =>
              -- the verdict is counted when all others have had their turns
              obtain ⟨rest, w', hon, hrounded⟩ := ih w₁
              rw [Work.on_bind_ok hact]
              refine ⟨_, w', ?_, hrounded.attempted hpresent hact⟩
              cases rest with
              | error e => exact Work.on_bind_error hon
              | ok n => exact Work.on_bind_ok hon

/-! ## The whole command -/

omit [Server σ] in
/-- The user is told how many attempts failed, if any did, and so is the caller of the program. -/
theorem concluded_on (action : Action) (names : List String) (failed : Nat)
    (w : Workspace (Network σ)) :
    ∃ w', OnlyTold w w'
      ∧ (do
          if failed != 0 then
            say ("\n[yellow]" ++ action.name ++ " failed for " ++ Text.decimal failed ++ " of "
              ++ Text.decimal names.length ++ " databases[/yellow]")
          return exitCode (failed == 0) : Job σ Nat).on w
        = (.ok (exitCode (failed == 0)), w') := by
  split
  · rw [Work.on_bind_ok (say_on _ w)]
    exact ⟨_, .entry w _, rfl⟩
  · exact ⟨w, .refl w, rfl⟩

/-- Surroundings that name no configuration. -/
def nowhere : Surroundings :=
  ⟨⟨none, fun _ => none⟩, ⟨2024, 3, 1⟩⟩

/-- A configuration with one server, and definitions for two of its databases, of which the first
has the given bytes. -/
def stationFiles (first : List UInt8) : FileTree :=
  ⟨[(["dbtools.toml"],
      .file (.bytes (Text.Utf8.encode "[servers.local]\nurl = \"mysql://h\"\n"))),
    (["repository"], .directory), (["repository", "a.dbd"], .file (.bytes first)),
    (["repository", "b.dbd"],
      .file (.bytes (Text.Utf8.encode "DATABASE b\nTABLE t\nid INT\nEND\n")))], []⟩

/-- What the configuration says. -/
def stationSettings : Config.Settings :=
  ⟨[("local", ⟨"mysql://h", "mysql", "", none⟩)], "repository"⟩

/-- The server has three databases, of which the second has a table. -/
def station (first : List UInt8) : Workspace (Network Memory) :=
  ⟨stationFiles first, [], .fresh ⟨[("a", []), ("b", [("t", [])]), ("c", [])], none, [], []⟩⟩

end Tablekeep.Command
