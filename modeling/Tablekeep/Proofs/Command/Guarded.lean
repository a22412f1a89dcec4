import Tablekeep.Proofs.Command.Course
import Tablekeep.Proofs.Command.Rounds
import Tablekeep.Proofs.Script.Openings

/-!
# What is checked before anything is touched

Whatever is configured, however a definition reads, whatever the server answers and wherever it
fails: an action on one database touches rows and tables only behind its checks. `Guarded` says what
that means, in terms of the statements and their answers: on live tables nothing happens, neither on
the server nor to the files, before the tables are known to be those of the definition; rows are
inserted only by a restoration, and only into a database all of whose tables were found to be empty;
a database is created only where there was none; and only what is asked for is dropped.

Statements are told apart by what they begin with, as they are sent. `Course` has all the ways in
which an action can go, and each of them is guarded.
-/

namespace Tablekeep.Command

open Files Server Repository Work

/-! ## What statements do -/

/-- The statement is sent with these words at its beginning. -/
def Opens (d : Dialect) (x : Exchange) (w : String) : Prop :=
  Text.beginsWith (x.text d) w = true

/-- The statement inserts a row. -/
def IsInsert (d : Dialect) (x : Exchange) : Prop :=
  Opens d x "INSERT" ∨ Opens d x "SET IDENTITY_INSERT"

/-- The statement creates a database. -/
def CreatesDatabase (d : Dialect) (x : Exchange) : Prop :=
  Opens d x "CREATE DATABASE"

variable {d : Dialect} {x : Exchange}

/-- The ways in which statements begin. -/
def openings : List String :=
  ["SELECT", "SHOW", "CREATE DATABASE", "DROP DATABASE", "INSERT", "SET IDENTITY_INSERT"]
    ++ scriptOpenings

/-- No statement begins in two ways. -/
theorem Opens.unique {v w : String} (hv : v ∈ openings) (hw : w ∈ openings) (h : Opens d x v)
    (h' : Opens d x w) : v = w := by
  have hall : ∀ v ∈ openings, ∀ w ∈ openings, v ≠ w → Text.beginsWith v w = false := by
    decide +kernel
  by_contra hne
  have hnot := Text.not_beginsWith h (hall v hv w hw hne) (hall w hw v hv (Ne.symm hne))
  cases h'.symm.trans hnot

theorem opens_run {text w : String} {answer : Except ServerError Unit} (hw : Text.isBare w = true)
    (h : Text.beginsWith text w = true) : Opens d (.run text answer) w := by
  unfold Opens Exchange.text Statement.text
  exact Text.beginsWith_ended hw h

/-- A statement that neither inserts a row nor creates a database. -/
structure Quiet (d : Dialect) (x : Exchange) : Prop where
  insert : ¬ IsInsert d x
  create : ¬ CreatesDatabase d x

theorem quiet_of_opens {w : String} (hw : w ∈ ["SELECT", "SHOW", "DROP DATABASE"] ++ scriptOpenings)
    (h : Opens d x w) : Quiet d x := by
  have hother : ∀ w ∈ ["SELECT", "SHOW", "DROP DATABASE"] ++ scriptOpenings, w ∈ openings
      ∧ w ≠ "INSERT" ∧ w ≠ "SET IDENTITY_INSERT" ∧ w ≠ "CREATE DATABASE" := by
    decide +kernel
  obtain ⟨hmem, hinsert, hidentity, hcreate⟩ := hother w hw
  constructor
  · rintro (hopens | hopens)
    · exact hinsert (h.unique hmem (by decide +kernel) hopens)
    · exact hidentity (h.unique hmem (by decide +kernel) hopens)
  · intro hopens
    exact hcreate (h.unique hmem (by decide +kernel) hopens)

theorem databases_quiet (answer : Except ServerError (List Value)) :
    Quiet d (.databases answer) := by
  cases d with
  | mysql =>
      refine quiet_of_opens (w := "SHOW") (by decide +kernel) ?_
      change Text.beginsWith "SHOW DATABASES" "SHOW" = true
      decide
  | azure =>
      refine quiet_of_opens (w := "SELECT") (by decide +kernel) ?_
      change Text.beginsWith "SELECT name FROM sys.databases" "SELECT" = true
      decide

theorem tables_quiet (answer : Except ServerError (List Value)) : Quiet d (.tables answer) := by
  cases d with
  | mysql =>
      refine quiet_of_opens (w := "SHOW") (by decide +kernel) ?_
      change Text.beginsWith "SHOW TABLES" "SHOW" = true
      decide
  | azure =>
      refine quiet_of_opens (w := "SELECT") (by decide +kernel) ?_
      change Text.beginsWith (Statement.tables.text .azure) "SELECT" = true
      decide +kernel

theorem quiet_of_isProbe (h : IsProbe x) : Quiet d x := by
  obtain ⟨answer, rfl⟩ := h
  refine quiet_of_opens (w := "SELECT") (by decide +kernel) ?_
  change Text.beginsWith "SELECT 1" "SELECT" = true
  decide

theorem quiet_of_isRead (h : x.IsRead) : Quiet d x := by
  obtain ⟨request, answer, rfl⟩ := h
  refine quiet_of_opens (w := "SELECT") (by decide +kernel) ?_
  change Text.beginsWith (selectText d request) "SELECT" = true
  exact selectText_opens d request

theorem script_quiet {text : String} (h : OpensScript text) (answer : Except ServerError Unit) :
    Quiet d (.run text answer) := by
  obtain ⟨w, hw, hopens⟩ := h
  have hbare : ∀ w ∈ scriptOpenings, Text.isBare w = true := by decide +kernel
  exact quiet_of_opens (List.mem_append_right _ hw) (opens_run (hbare w hw) hopens)

theorem drop_quiet (name : String) (answer : Except ServerError Unit) :
    Quiet d (.run ("DROP DATABASE " ++ name) answer) := by
  refine quiet_of_opens (w := "DROP DATABASE") (by decide +kernel)
    (opens_run (by decide +kernel) ?_)
  exact Text.beginsWith_append (by decide +kernel) name

theorem create_createsDatabase (name : String) (answer : Except ServerError Unit) :
    CreatesDatabase d (.run ("CREATE DATABASE " ++ name) answer) :=
  opens_run (by decide +kernel) (Text.beginsWith_append (by decide +kernel) name)

/-- A statement that creates a database inserts nothing. -/
theorem CreatesDatabase.not_isInsert (h : CreatesDatabase d x) : ¬ IsInsert d x := by
  rintro (hinsert | hidentity)
  · exact absurd (h.unique (by decide +kernel) (by decide +kernel) hinsert) (by decide +kernel)
  · exact absurd (h.unique (by decide +kernel) (by decide +kernel) hidentity) (by decide +kernel)

/-! ## Guards -/

/-- The live tables were listed, and they are those of the definition. -/
def Passed (db : Database) (xs : List Exchange) : Prop :=
  ∃ values, .tables (.ok values) ∈ xs ∧ Fits db (Connection.namesOf values)

/-- Rows and tables are only touched behind the checks. The exchanges `xs` are those of an action on
the database `db`, which ended as `ending` says; `t` and `t'` are the files before and after. -/
structure Guarded (action : Action) (d : Dialect) (db : Database) (xs : List Exchange)
    (ending : Ending) (t t' : FileTree) : Prop where
  /-- On live tables the server is first asked whether it is there and then for its tables, and
  nothing more unless they are those of the definition. -/
  live : action.isLive = true → (∀ x ∈ xs, IsProbe x) ∨ ∃ probes answer after,
    xs = probes ++ .tables answer :: after ∧ (∀ x ∈ probes, IsProbe x)
      ∧ (after = [] ∨ ∃ values, answer = .ok values ∧ Fits db (Connection.namesOf values))
  /-- Files change only if the live tables are those of the definition. -/
  files : t' = t ∨ action.isLive = true ∧ Passed db xs
  /-- Only a restoration inserts rows, when all tables were found to be empty. -/
  inserts : (∀ x ∈ xs, ¬ IsInsert d x) ∨ action = .restore ∧ ∃ before after,
    xs = before ++ after ∧ (∀ x ∈ before, ¬ IsInsert d x)
      ∧ ∀ t ∈ db.tables, .select ⟨t.name, none, some 1⟩ (.ok []) ∈ before
  /-- A database that is there is not created, and nothing else is done. -/
  listed : action = .create → d = .mysql → ∀ values, .databases (.ok values) ∈ xs →
    db.name ∈ listedDatabases values → xs = [.databases (.ok values)]
  /-- A database is created at most once, on one dialect, when it is known that it is not there, and
  before anything else is carried out. -/
  creates : (∀ x ∈ xs, ¬ CreatesDatabase d x) ∨ action = .create ∧ d = .mysql
    ∧ ∃ values answer after,
      xs = .databases (.ok values) :: .run ("CREATE DATABASE " ++ db.name) answer :: after
        ∧ db.name ∉ listedDatabases values ∧ ∀ x ∈ after, ¬ CreatesDatabase d x
  /-- To drop a database one statement is sent at most, and none where it is not allowed. -/
  drops : action = .drop → xs = [] ∨ d = .mysql
    ∧ ∃ answer, xs = [.run ("DROP DATABASE " ++ db.name) answer]
  /-- What is done was not refused by the server. -/
  done : ending = .done → ∀ x ∈ xs, IsProbe x ∨ x.Answered
  /-- An action is refused if and only if a check does not pass. -/
  refused : ending = .refused
    ↔ action.isLive = true ∧ (∃ values, .tables (.ok values) ∈ xs
        ∧ ¬ Fits db (Connection.namesOf values))
      ∨ action = .create ∧ d = .mysql ∧ (∃ values, .databases (.ok values) ∈ xs
        ∧ db.name ∈ listedDatabases values)
      ∨ action = .drop ∧ d = .azure

variable {action : Action} {db : Database} {xs : List Exchange} {ending : Ending} {t t' : FileTree}

/-! ### Creating and dropping -/

theorem run_answered {text : String} {answer : Except ServerError Unit} (h : IsOk answer) :
    (Exchange.run text answer).Answered := by
  obtain ⟨a, rfl⟩ := h
  rfl

/-- Nothing is sent at all. -/
theorem guarded_nothing (hlive : action.isLive ≠ true) (hdone : ending ≠ .done)
    (hrefused : ending = .refused ↔ action = .drop ∧ d = .azure) :
    Guarded action d db [] ending t t where
  live h := absurd h hlive
  files := .inl rfl
  inserts := .inl (List.forall_mem_nil _)
  listed := nofun
  creates := .inl (List.forall_mem_nil _)
  drops _ := .inl rfl
  done h := absurd h hdone
  refused := by simp [hlive, hrefused]

theorem Dropping.guarded (h : Dropping db.name d xs ending) : Guarded .drop d db xs ending t t := by
  have hlive : Action.drop.isLive ≠ true := by decide
  cases h with
  | refused => exact guarded_nothing hlive nofun ⟨fun _ => ⟨rfl, rfl⟩, fun _ => rfl⟩
  | unreachable => exact guarded_nothing hlive nofun ⟨nofun, nofun⟩
  | dropping answer =>
      have hquiet := drop_quiet (d := .mysql) db.name answer
      exact {
        live := fun h => absurd h hlive
        files := .inl rfl
        inserts := .inl (List.forall_mem_singleton.mpr hquiet.insert)
        listed := nofun
        creates := .inl (List.forall_mem_singleton.mpr hquiet.create)
        drops := fun _ => .inr ⟨rfl, answer, rfl⟩
        done := fun h => List.forall_mem_singleton.mpr
          (.inr (run_answered (isOk_mapError_iff.mp (Ending.isOk_of_after h))))
        refused := by simp [hlive, Ending.after_ne_refused] }

/-- Statements of a script do nothing else, and each was answered if all were carried out. -/
theorem Scripting.quiet {outcome : Except Failure Unit} (h : Scripting d db xs outcome) :
    ∀ x ∈ xs, ∃ text answer, x = .run text answer ∧ Quiet d x := by
  cases h with
  | unscripted => exact List.forall_mem_nil _
  | executing hscript hexecuting =>
      have hopens := Database.statements_open hscript
      cases hexecuting with
      | stopped before htexts =>
          subst htexts
          intro x hx
          rcases List.mem_append.mp hx with hx | hx
          · obtain ⟨text, htext, rfl⟩ := List.mem_map.mp hx
            exact ⟨text, _, rfl, script_quiet (hopens text (List.mem_append_left _ htext)) _⟩
          · obtain rfl := List.mem_singleton.mp hx
            exact ⟨_, _, rfl, script_quiet
              (hopens _ (List.mem_append_right _ (List.mem_cons_self ..))) _⟩
      | executed =>
          intro x hx
          obtain ⟨text, htext, rfl⟩ := List.mem_map.mp hx
          exact ⟨text, _, rfl, script_quiet (hopens text htext) _⟩

theorem Scripting.answered {outcome : Except Failure Unit} (h : Scripting d db xs outcome)
    (hok : IsOk outcome) : ∀ x ∈ xs, x.Answered := by
  cases h with
  | unscripted => exact absurd hok (not_isOk_error _)
  | executing hscript hexecuting =>
      cases hexecuting with
      | stopped => exact absurd hok (not_isOk_error _)
      | executed =>
          intro x hx
          obtain ⟨text, -, rfl⟩ := List.mem_map.mp hx
          rfl

/-- A database that has to be there already. -/
theorem guarded_present (hquiet : ∀ x ∈ xs, ∃ text answer, x = .run text answer ∧ Quiet .azure x)
    (hanswered : ending = .done → ∀ x ∈ xs, x.Answered) (hrefused : ending ≠ .refused) :
    Guarded .create .azure db xs ending t t := by
  have hall : ∀ x ∈ xs, Quiet .azure x := fun x hx => by
    obtain ⟨text, answer, -, h⟩ := hquiet x hx
    exact h
  exact {
    live := nofun
    files := .inl rfl
    inserts := .inl fun x hx => (hall x hx).insert
    listed := nofun
    creates := .inl fun x hx => (hall x hx).create
    drops := nofun
    done := fun h x hx => .inr (hanswered h x hx)
    refused := by simp [hrefused, Action.isLive] }

/-- A database that is made, before its tables are. -/
theorem guarded_made {values : List Value} {answer : Except ServerError Unit}
    (hnew : db.name ∉ listedDatabases values)
    (hquiet : ∀ x ∈ xs, ∃ text answer, x = .run text answer ∧ Quiet .mysql x)
    (hanswered : ending = .done → IsOk answer ∧ ∀ x ∈ xs, x.Answered)
    (hrefused : ending ≠ .refused) :
    Guarded .create .mysql db
      (.databases (.ok values) :: .run ("CREATE DATABASE " ++ db.name) answer :: xs) ending t
      t := by
  have hall : ∀ x ∈ xs, Quiet .mysql x := fun x hx => by
    obtain ⟨text, answer, -, h⟩ := hquiet x hx
    exact h
  have hlist := databases_quiet (d := .mysql) (.ok values)
  -- the databases were listed once, and that list does not have the name
  have honce : ∀ others, Exchange.databases (.ok others)
      ∈ .databases (.ok values) :: .run ("CREATE DATABASE " ++ db.name) answer :: xs →
      others = values := by
    intro others hmem
    rcases List.mem_cons.mp hmem with h | hmem
    · exact Except.ok.inj (Exchange.databases.inj h)
    · rcases List.mem_cons.mp hmem with h | hmem
      · cases h
      · obtain ⟨text, answer, h, -⟩ := hquiet _ hmem
        cases h
  exact {
    live := nofun
    files := .inl rfl
    inserts := .inl (List.forall_mem_cons.mpr ⟨hlist.insert, List.forall_mem_cons.mpr
      ⟨(create_createsDatabase db.name answer).not_isInsert, fun x hx => (hall x hx).insert⟩⟩)
    listed := fun _ _ others hmem hlisted => absurd (honce others hmem ▸ hlisted) hnew
    creates := .inr ⟨rfl, rfl, values, answer, xs, rfl, hnew, fun x hx => (hall x hx).create⟩
    drops := nofun
    done := fun h => List.forall_mem_cons.mpr ⟨.inr rfl, List.forall_mem_cons.mpr
      ⟨.inr (run_answered (hanswered h).1), fun x hx => .inr ((hanswered h).2 x hx)⟩⟩
    refused := by
      constructor
      · exact fun h => absurd h hrefused
      · rintro (⟨h, -⟩ | ⟨-, -, others, hmem, hlisted⟩ | ⟨h, -⟩)
        · cases h
        · exact absurd (honce others hmem ▸ hlisted) hnew
        · cases h }

/-- A database that is not made, because it is there or because nobody knows. -/
theorem guarded_unmade {answer : Except ServerError (List Value)} (hdone : ending ≠ .done)
    (hrefused : ending = .refused ↔ ∃ values, answer = .ok values
      ∧ db.name ∈ listedDatabases values) :
    Guarded .create .mysql db [.databases answer] ending t t := by
  have hlist := databases_quiet (d := .mysql) answer
  exact {
    live := nofun
    files := .inl rfl
    inserts := .inl (List.forall_mem_singleton.mpr hlist.insert)
    listed := fun _ _ values hmem _ => by rw [List.mem_singleton.mp hmem]
    creates := .inl (List.forall_mem_singleton.mpr hlist.create)
    drops := nofun
    done := fun h => absurd h hdone
    refused := by
      rw [hrefused]
      constructor
      · rintro ⟨values, rfl, hlisted⟩
        exact .inr (.inl ⟨rfl, rfl, values, List.mem_singleton_self _, hlisted⟩)
      · rintro (⟨h, -⟩ | ⟨-, -, values, hmem, hlisted⟩ | ⟨h, -⟩)
        · cases h
        · exact ⟨values, (Exchange.databases.inj (List.mem_singleton.mp hmem)).symm, hlisted⟩
        · cases h }

theorem Creating.guarded (h : Creating d db xs ending) : Guarded .create d db xs ending t t := by
  cases h with
  | unprovided hproviding =>
      cases hproviding with
      | unreachable => exact guarded_nothing (by decide) nofun ⟨nofun, nofun⟩
      | unlisted => exact guarded_unmade nofun ⟨nofun, nofun⟩
      | rejected hnew =>
          exact guarded_made hnew (List.forall_mem_nil _) nofun nofun
  | refused hproviding =>
      cases hproviding with
      | listed hlisted =>
          exact guarded_unmade nofun ⟨fun _ => ⟨_, rfl, hlisted⟩, fun _ => rfl⟩
  | unreachable hproviding =>
      cases hproviding with
      | present => exact guarded_present (List.forall_mem_nil _) nofun nofun
      | created hnew => exact guarded_made hnew (List.forall_mem_nil _) nofun nofun
  | scripting hproviding hscripting =>
      cases hproviding with
      | present =>
          exact guarded_present hscripting.quiet
            (fun h => hscripting.answered (Ending.isOk_of_after h)) (Ending.after_ne_refused _)
      | created hnew =>
          exact guarded_made hnew hscripting.quiet
            (fun h => ⟨⟨(), rfl⟩, hscripting.answered (Ending.isOk_of_after h)⟩)
            (Ending.after_ne_refused _)

/-! ### Live tables -/

/-- What is done to restore a row is to insert it. -/
theorem isInsert_of_inserts (h : x.Inserts d) : IsInsert d x := by
  obtain ⟨row, answer, rfl⟩ := h
  have hstatement : Text.beginsWith row.statement "INSERT" = true := by
    unfold Backup.RowInsert.statement
    repeat with_reducible apply Text.beginsWith_append
    decide
  unfold Backup.RowInsert.batch
  split
  · refine .inr (opens_run (by decide +kernel) ?_)
    repeat with_reducible apply Text.beginsWith_append
    decide
  · exact .inl (opens_run (by decide +kernel) hstatement)

/-- What is done with live tables. -/
structure Used (action : Action) (d : Dialect) (db : Database) (xs : List Exchange)
    (ending : Ending) : Prop where
  inserts : (∀ x ∈ xs, ¬ IsInsert d x) ∨ action = .restore ∧ ∃ before after,
    xs = before ++ after ∧ (∀ x ∈ before, ¬ IsInsert d x)
      ∧ ∀ t ∈ db.tables, .select ⟨t.name, none, some 1⟩ (.ok []) ∈ before
  creates : ∀ x ∈ xs, ¬ CreatesDatabase d x
  tables : ∀ answer, .tables answer ∉ xs
  done : ending = .done → ∀ x ∈ xs, x.Answered
  refused : ending ≠ .refused

theorem Using.used (h : Using action d db xs ending) : Used action d db xs ending := by
  have hread {xs : List Exchange} (h : ∀ x ∈ xs, x.IsRead)
      (answer : Except ServerError (List Value)) : .tables answer ∉ xs := fun hmem => by
    obtain ⟨_, _, hselect⟩ := h _ hmem
    cases hselect
  cases h with
  | reading hnot hworked =>
      exact {
        inserts := .inl fun x hx => (quiet_of_isRead (hworked.kind x hx)).insert
        creates := fun x hx => (quiet_of_isRead (hworked.kind x hx)).create
        tables := hread hworked.kind
        done := hworked.answered
        refused := hworked.affirmed }
  | asking hrestore hreads =>
      exact {
        inserts := .inl fun x hx => (quiet_of_isRead (hreads x hx)).insert
        creates := fun x hx => (quiet_of_isRead (hreads x hx)).create
        tables := hread hreads
        done := nofun
        refused := nofun }
  | inserting hrestore hworked =>
      rename_i ys
      have hempty : ∀ x ∈ db.tables.map RestorePlan.foundEmpty, x.IsRead ∧ x.Answered := by
        intro x hx
        obtain ⟨t, -, rfl⟩ := List.mem_map.mp hx
        exact ⟨⟨_, _, rfl⟩, rfl⟩
      exact {
        inserts := .inr ⟨hrestore, _, ys, rfl,
          fun x hx => (quiet_of_isRead (hempty x hx).1).insert,
          fun t ht => List.mem_map.mpr ⟨t, ht, rfl⟩⟩
        creates := List.forall_mem_append.mpr
          ⟨fun x hx => (quiet_of_isRead (hempty x hx).1).create,
            fun x hx hcreates => hcreates.not_isInsert (isInsert_of_inserts (hworked.kind x hx))⟩
        tables := fun answer hmem => by
          rcases List.mem_append.mp hmem with hmem | hmem
          · exact hread (fun x hx => (hempty x hx).1) answer hmem
          · obtain ⟨_, _, hrun⟩ := hworked.kind _ hmem
            cases hrun
        done := fun h => List.forall_mem_append.mpr
          ⟨fun x hx => (hempty x hx).2, hworked.answered h⟩
        refused := hworked.affirmed }

theorem not_create_of_isLive (hlive : action.isLive = true) :
    action ≠ .create ∧ action ≠ .drop := by
  cases action with
  | create | drop => cases hlive
  | backup | restore | report | check => exact ⟨nofun, nofun⟩

/-- Among the checks, those of an action on live tables are about the tables. -/
theorem refused_iff_of_isLive {P Q R : Prop} (hlive : action.isLive = true) :
    (action.isLive = true ∧ P ∨ action = .create ∧ Q ∨ action = .drop ∧ R) ↔ P := by
  obtain ⟨hcreate, hdrop⟩ := not_create_of_isLive hlive
  simp [hlive, hcreate, hdrop]

/-- An action that ends before anything is done with the tables. -/
theorem guarded_unused (hlive : action.isLive = true)
    (hasked : (∀ x ∈ xs, IsProbe x) ∨ ∃ probes answer, xs = probes ++ [.tables answer]
      ∧ ∀ x ∈ probes, IsProbe x)
    (hdone : ending ≠ .done)
    (hrefused : ending = .refused ↔ ∃ values, .tables (.ok values) ∈ xs
      ∧ ¬ Fits db (Connection.namesOf values)) :
    Guarded action d db xs ending t t := by
  obtain ⟨hcreate, hdrop⟩ := not_create_of_isLive hlive
  have hquiet : ∀ x ∈ xs, Quiet d x := by
    rcases hasked with hprobes | ⟨probes, answer, rfl, hprobes⟩
    · exact fun x hx => quiet_of_isProbe (hprobes x hx)
    · exact List.forall_mem_append.mpr ⟨fun x hx => quiet_of_isProbe (hprobes x hx),
        List.forall_mem_singleton.mpr (tables_quiet answer)⟩
  exact {
    live := fun _ => hasked.imp_right fun ⟨probes, answer, hxs, hprobes⟩ =>
      ⟨probes, answer, [], hxs, hprobes, .inl rfl⟩
    files := .inl rfl
    inserts := .inl fun x hx => (hquiet x hx).insert
    listed := fun h => absurd h hcreate
    creates := .inl fun x hx => (hquiet x hx).create
    drops := fun h => absurd h hdrop
    done := fun h => absurd h hdone
    refused := hrefused.trans (refused_iff_of_isLive hlive).symm }

/-- An action that goes on once the tables are known to be those of the definition. -/
theorem guarded_used {probes ys : List Exchange} {values : List Value}
    (hlive : action.isLive = true) (hprobes : ∀ x ∈ probes, IsProbe x)
    (hfits : Fits db (Connection.namesOf values)) (hused : Used action d db ys ending) :
    Guarded action d db (probes ++ .tables (.ok values) :: ys) ending t t' := by
  obtain ⟨hcreate, hdrop⟩ := not_create_of_isLive hlive
  have hquiet : ∀ x ∈ probes, Quiet d x := fun x hx => quiet_of_isProbe (hprobes x hx)
  have hlist := tables_quiet (d := d) (.ok values)
  -- the tables were listed once, and that list fits
  have honce : ∀ others, Exchange.tables (.ok others) ∈ probes ++ .tables (.ok values) :: ys →
      others = values := by
    intro others hmem
    rcases List.mem_append.mp hmem with hmem | hmem
    · obtain ⟨_, h⟩ := hprobes _ hmem
      cases h
    · rcases List.mem_cons.mp hmem with h | hmem
      · exact Except.ok.inj (Exchange.tables.inj h)
      · exact absurd hmem (hused.tables _)
  exact {
    live := fun _ => .inr ⟨probes, _, ys, rfl, hprobes, .inr ⟨values, rfl, hfits⟩⟩
    files := .inr ⟨hlive, values, List.mem_append_right _ (List.mem_cons_self ..), hfits⟩
    inserts := by
      rcases hused.inserts with hnone | ⟨hrestore, before, after, rfl, hbefore, hempty⟩
      · exact .inl (List.forall_mem_append.mpr ⟨fun x hx => (hquiet x hx).insert,
          List.forall_mem_cons.mpr ⟨hlist.insert, hnone⟩⟩)
      · refine .inr ⟨hrestore, probes ++ .tables (.ok values) :: before, after, by simp, ?_, ?_⟩
        · exact List.forall_mem_append.mpr ⟨fun x hx => (hquiet x hx).insert,
            List.forall_mem_cons.mpr ⟨hlist.insert, hbefore⟩⟩
        · exact fun t ht => List.mem_append_right _ (List.mem_cons_of_mem _ (hempty t ht))
    listed := fun h => absurd h hcreate
    creates := .inl (List.forall_mem_append.mpr
      ⟨fun x hx => (hquiet x hx).create,
        List.forall_mem_cons.mpr ⟨hlist.create, hused.creates⟩⟩)
    drops := fun h => absurd h hdrop
    done := fun h => List.forall_mem_append.mpr ⟨fun x hx => .inl (hprobes x hx),
      List.forall_mem_cons.mpr ⟨.inr rfl, fun x hx => .inr (hused.done h x hx)⟩⟩
    refused := by
      rw [refused_iff_of_isLive hlive]
      constructor
      · exact fun h => absurd h hused.refused
      · rintro ⟨others, hmem, hdiffers⟩
        exact absurd (honce others hmem ▸ hfits) hdiffers }

theorem Visiting.guarded (hlive : action.isLive = true)
    (h : Visiting db (Using action d db) t xs ending t') : Guarded action d db xs ending t t' := by
  cases h with
  | unreachable hprobes =>
      refine guarded_unused hlive (.inl hprobes) nofun ⟨nofun, ?_⟩
      rintro ⟨values, hmem, -⟩
      obtain ⟨_, h⟩ := hprobes _ hmem
      cases h
  | unlisted hprobes =>
      refine guarded_unused hlive (.inr ⟨_, _, rfl, hprobes⟩) nofun ⟨nofun, ?_⟩
      rintro ⟨values, hmem, -⟩
      rcases List.mem_append.mp hmem with hmem | hmem
      · obtain ⟨_, h⟩ := hprobes _ hmem
        cases h
      · cases List.mem_singleton.mp hmem
  | differing hprobes hdiffers =>
      refine guarded_unused hlive (.inr ⟨_, _, rfl, hprobes⟩) nofun ⟨?_, ?_⟩
      · exact fun _ => ⟨_, List.mem_append_right _ (List.mem_singleton_self _), hdiffers⟩
      · exact fun _ => rfl
  | fitting hprobes hfits husing => exact guarded_used hlive hprobes hfits husing.used

/-- Each way in which an action can go is guarded. -/
theorem Course.guarded (h : Course action d db t xs ending t') :
    Guarded action d db xs ending t t' := by
  cases h with
  | creating haction hcreating => exact haction ▸ hcreating.guarded
  | dropping haction hdropping => exact haction ▸ hdropping.guarded
  | visiting hlive hvisiting => exact hvisiting.guarded hlive

/-! ## Runs -/

variable {σ : Type} [Server σ] (around : Surroundings) (server : String) (action : Action)
  (backup : Option String)

theorem Ending.code_eq (ending : Ending) : ending.code = exitCode (verdict ending.outcome) := by
  cases ending with
  | done => rfl
  | refused => rfl
  | failed e => rfl

/-- **Nothing is touched before the checks pass.** A run of an action on one database either does
not come to the action, because there is no configuration, no such server or no good definition:
then nothing has happened, and it does not end with the code for success. Or the action is done,
everything that is sent in the run is sent behind the checks, and the run ends with the code for
success if and only if the action was neither refused nor failed. -/
theorem carryOut_guarded (config : Option String) (verbose : Bool) (database : String)
    (w : Workspace (Network σ)) (hone : Config.isAll database = false) :
    ∃ outcome w',
      (carryOut around ⟨config, verbose, .act action server database backup⟩).on w = (outcome, w')
      ∧ ((∃ s profile db w₁ w₂ xs ending, Configured around w.files config server s profile
          ∧ Defines w.files (definitionAt s database) db
          ∧ OnlyTold w w₁
          ∧ (act around s server db backup action).on w₁ = (Ending.outcome ending, w₂)
          ∧ OnlyTold w₂ w'
          ∧ Conversation profile.dialect w.remote xs w'.remote
          ∧ Guarded action profile.dialect db xs ending w.files w'.files
          ∧ outcome = .ok ending.code)
        ∨ (∀ s profile db, Configured around w.files config server s profile →
            ¬ Defines w.files (definitionAt s database) db)
          ∧ OnlyTold w w' ∧ outcome ≠ .ok 0) := by
  rcases carryOut_act_on around server action backup config verbose database w with
    ⟨s, profile, hconfigured, hbegun⟩ | ⟨hnone, outcome, w', hon, hcode, htold⟩
  · obtain ⟨judged, w', hact, hacted⟩ := actOn_on around s server action backup database w
    -- on one database the code is that of the verdict
    have hrun : (runAction around s server database action backup).on w
        = (judged.map exitCode, w') := by
      unfold runAction
      rw [if_neg (by rw [hone]; decide)]
      cases judged with
      | error e => exact on_bind_error hact
      | ok done => exact on_bind_ok hact
    refine ⟨_, w', hbegun.trans hrun, ?_⟩
    cases hacted with
    | acted hdefines htold hon htold' =>
        rename_i db outcome w₁ w₂
        obtain ⟨xs, ending, v', hdoes, hcourse⟩ :=
          act_does around hconfigured.2 db backup action w₁
        obtain ⟨rfl, rfl⟩ := Prod.mk.inj (hon.symm.trans hdoes.on)
        have hconversation := hdoes.held
        -- no server hears of what is done around the action, and the files stay as they are
        rw [htold.remote, ← htold'.remote] at hconversation
        rw [htold.files, ← htold'.files] at hcourse
        refine .inl ⟨s, profile, db, w₁, _, xs, ending, hconfigured, hdefines, htold, hon, htold',
          hconversation, hcourse.guarded, ?_⟩
        rw [ending.code_eq]
        rfl
    | undefined hundefined htold =>
        refine .inr ⟨fun s' profile' db h => ?_, htold, by simp [Except.map, exitCode]⟩
        obtain rfl := Except.ok.inj (hconfigured.1.symm.trans h.1)
        exact hundefined db
    | stopped hfault htold =>
        refine .inr ⟨fun s' profile' db h hdefines => ?_, htold, by simp [Except.map]⟩
        obtain rfl := Except.ok.inj (hconfigured.1.symm.trans h.1)
        exact hfault.not_defines hdefines
  · exact ⟨outcome, w', hon, .inr ⟨fun s profile db h => absurd h (hnone s profile), htold, hcode⟩⟩

/-- The server and the files of `station`, and a document with a row of the empty table. -/
def stockedStation : Workspace (Network Memory) :=
  let w := station []
  let document := "<b><ts><t><id>7</id></t></ts></b>"
  { w with
    files := ⟨w.files.nodes ++ [(["b.xml"], .file (.bytes (Text.Utf8.encode document)))], []⟩ }

/-- The row is inserted once the tables are known and the one of the definition is known to be
empty. -/
theorem carryOut_guarded_restored :
    let w := stockedStation
    let run := (carryOut nowhere ⟨none, false, .act .restore "local" "b" (some "b.xml")⟩).on w
    let url := "mysql+aiomysql://h/b"
    Config.isAll "b" = false
      ∧ run.1 = .ok 0
      ∧ run.2.remote.trace = [.opened 0 url, .sent 0 url .query "SHOW TABLES",
          .sent 0 url .stream "SELECT * FROM t LIMIT 1;",
          .sent 0 url .direct "INSERT INTO t (id) VALUES (7);", .closed 0 url]
      ∧ ∃ outcome w', run = (outcome, w')
        ∧ ((∃ s profile db w₁ w₂ xs ending, Configured nowhere w.files none "local" s profile
            ∧ Defines w.files (definitionAt s "b") db
            ∧ OnlyTold w w₁
            ∧ (act nowhere s "local" db (some "b.xml") .restore).on w₁
              = (Ending.outcome ending, w₂)
            ∧ OnlyTold w₂ w'
            ∧ Conversation profile.dialect w.remote xs w'.remote
            ∧ Guarded .restore profile.dialect db xs ending w.files w'.files
            ∧ outcome = .ok ending.code)
          ∨ (∀ s profile db, Configured nowhere w.files none "local" s profile →
              ¬ Defines w.files (definitionAt s "b") db)
            ∧ OnlyTold w w' ∧ outcome ≠ .ok 0) := by
  intro w run url
  have hone : Config.isAll "b" = false := by decide +kernel
  -- the run is computed once for its code and its trace
  refine ⟨hone, and_assoc.mp ⟨by decide +kernel, ?_⟩⟩
  exact carryOut_guarded nowhere "local" .restore (some "b.xml") none false "b" w hone

end Tablekeep.Command
