import Tablekeep.Proofs.Command.Course
import Tablekeep.Proofs.Command.Rounds

/-!
# Databases without a script

Some databases have no script: all columns of a table may be large objects, and no such table can be
created. This is found out when the script is to be carried out. By then the database has been
created, on the dialect on which one can be, and it is left behind without tables. So it happens
exactly if the server has listed its databases and the name is not among them; where a database has
to be there already, and where it is not known whether it is there, nothing is carried out.
-/

namespace Tablekeep.Command

open Server Work

/-- The statements that are to be carried out in the exchanges, without those that ask for
something. -/
def orders (xs : List Exchange) : List String :=
  xs.filterMap fun x =>
    match x with
    | .run text _ => some text
    | _ => none

/-- The server has databases created, and it has said which there are; the one with the name is not
among them. -/
def KnownMissing (d : Dialect) (name : String) (xs : List Exchange) : Prop :=
  d = .mysql ∧ ∃ values, .databases (.ok values) ∈ xs ∧ name ∉ listedDatabases values

variable {d : Dialect} {db : Database} {name : String} {xs : List Exchange}

/-- To make sure of a database at most one statement is carried out, which creates it. -/
theorem Providing.orders {outcome : Except Failure Bool} (h : Providing name d xs outcome) :
    orders xs = [] ∧ ¬ KnownMissing d name xs
      ∨ orders xs = ["CREATE DATABASE " ++ name] ∧ KnownMissing d name xs := by
  cases h with
  | present => exact .inl ⟨rfl, nofun⟩
  | unreachable => exact .inl ⟨rfl, fun ⟨_, _, hmem, _⟩ => absurd hmem List.not_mem_nil⟩
  | unlisted =>
      refine .inl ⟨rfl, fun ⟨_, _, hmem, _⟩ => ?_⟩
      cases List.mem_singleton.mp hmem
  | listed hlisted =>
      refine .inl ⟨rfl, fun ⟨_, values, hmem, hmissing⟩ => ?_⟩
      obtain rfl := Except.ok.inj (Exchange.databases.inj (List.mem_singleton.mp hmem))
      exact hmissing hlisted
  | rejected hmissing => exact .inr ⟨rfl, rfl, _, List.mem_cons_self .., hmissing⟩
  | created hmissing => exact .inr ⟨rfl, rfl, _, List.mem_cons_self .., hmissing⟩

/-- Without a script, creating a database comes to nothing but making sure of it. -/
theorem Creating.unscripted {e : ScriptError} {ending : Ending}
    (hscript : db.statements d = .error e) (h : Creating d db xs ending) :
    ending ≠ .done ∧ ∃ outcome, Providing db.name d xs outcome := by
  cases h with
  | unprovided hproviding => exact ⟨nofun, _, hproviding⟩
  | refused hproviding => exact ⟨nofun, _, hproviding⟩
  | unreachable hproviding => exact ⟨nofun, _, hproviding⟩
  | scripting hproviding hscripting =>
      cases hscripting with
      | unscripted =>
          rw [List.append_nil]
          exact ⟨nofun, _, hproviding⟩
      | executing htexts => cases hscript.symm.trans htexts

variable {σ : Type} [Server σ] {s : Config.Settings} {server : String} {profile : Config.Profile}

/-- **A database without a script is not created, or is left without tables.** Whatever the server
answers, the action does not succeed, files stay as they are, and of all statements at most the one
that creates the database is carried out: it is if and only if the database can be created and is
known to be missing. -/
theorem create_unscripted (hserver : s.server server = .ok profile) {e : ScriptError}
    (hscript : db.statements profile.dialect = .error e) (v : Workspace (Network σ)) :
    ∃ xs ending v', Does profile.dialect (create s server db) v xs (Ending.outcome ending) v'
      ∧ v'.files = v.files ∧ ending ≠ .done
      ∧ (orders xs = [] ∧ ¬ KnownMissing profile.dialect db.name xs
        ∨ orders xs = ["CREATE DATABASE " ++ db.name]
          ∧ KnownMissing profile.dialect db.name xs) := by
  obtain ⟨xs, ending, v', hdoes, hfiles, hcreating⟩ := create_does hserver db v
  obtain ⟨hending, _, hproviding⟩ := hcreating.unscripted hscript
  exact ⟨xs, ending, v', hdoes, hfiles, hending, hproviding.orders⟩

/-- A database whose one table has nothing but a large object. -/
def pictures : Database :=
  ⟨"pictures", [⟨"picture", [⟨"image", "BLOB", .binary, false, true, false, none⟩]⟩]⟩

theorem create_unscripted_pictures :
    let profile : Config.Profile := ⟨"mysql://h", "mysql", "", none⟩
    let v := station []
    stationSettings.server "local" = .ok profile
      ∧ pictures.statements profile.dialect = .error (.nothingToCreate "picture")
      ∧ ∃ xs ending v',
        Does profile.dialect (create stationSettings "local" pictures) v xs
          (Ending.outcome ending) v'
        ∧ v'.files = v.files ∧ ending ≠ .done
        ∧ (orders xs = [] ∧ ¬ KnownMissing profile.dialect pictures.name xs
          ∨ orders xs = ["CREATE DATABASE " ++ pictures.name]
            ∧ KnownMissing profile.dialect pictures.name xs) := by
  intro profile v
  have hserver : stationSettings.server "local" = .ok profile := by decide +kernel
  have hscript : pictures.statements profile.dialect = .error (.nothingToCreate "picture") := by
    decide +kernel
  exact ⟨hserver, hscript, create_unscripted hserver hscript v⟩

/-- A definition without a script can be read, and the database is created before it fails. -/
theorem create_leaves_database :
    let run := (create stationSettings "local" pictures).on (station [])
    let url := "mysql+aiomysql://h/mysql"
    Database.ofText "pictures" "DATABASE pictures\nTABLE picture\nimage BLOB\nEND\n" = .ok pictures
      ∧ pictures.statements .mysql = .error (.nothingToCreate "picture")
      ∧ run.1 = .error (.script (.nothingToCreate "picture"))
      ∧ run.2.remote.trace = [.opened 0 url, .sent 0 url .query "SHOW DATABASES",
        .sent 0 url .direct "CREATE DATABASE pictures;", .closed 0 url,
        .opened 1 "mysql+aiomysql://h/pictures", .closed 1 "mysql+aiomysql://h/pictures"] := by
  decide +kernel

end Tablekeep.Command
