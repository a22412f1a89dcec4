import Tablekeep.Proofs.Check.Tables
import Tablekeep.Proofs.Command.Attempt
import Tablekeep.Proofs.Repository.Exchanges

/-!
# How an action goes

For each action there is an inductive relation between what was exchanged with the servers, how the
action ended, and the files: `Creating`, `Dropping` and, for the four actions on live tables,
`Visiting`. There is one constructor for each point at which the action can end. Whatever the server
answers, and wherever it fails, the course of an action is one of these; `act_does` says so.

The files appear in `Visiting` only, and only behind the tables that fit: nothing else touches them.
-/

namespace Tablekeep.Command

open Files Server Repository Work

variable {σ α : Type}

/-! ## Ends -/

/-- How an action ends. -/
inductive Ending where
  | done
  /-- A check did not pass, and the user was told. -/
  | refused
  | failed (e : Failure)

namespace Ending

/-- The outcome of an action that ends so. -/
def outcome : Ending → Except Failure Bool
  | done => .ok true
  | refused => .ok false
  | failed e => .error e

/-- The code of a program that ends with the action. -/
def code : Ending → Nat
  | done => 0
  | refused => 1
  | failed _ => 1

/-- How an action ends that carries on with the value of work, and then does all it has to do. -/
def after : Except Failure α → Ending
  | .ok _ => done
  | .error e => failed e

end Ending

theorem Ending.after_ne_refused (outcome : Except Failure α) : Ending.after outcome ≠ .refused := by
  cases outcome with
  | ok a => exact nofun
  | error e => exact nofun

theorem Ending.isOk_of_after {outcome : Except Failure α} (h : Ending.after outcome = .done) :
    IsOk outcome := by
  cases outcome with
  | ok a => exact ⟨a, rfl⟩
  | error e => cases h

/-- The work never gives that something was refused. -/
def Affirms (w : Job σ Bool) : Prop :=
  ∀ v, (w.on v).1 ≠ .ok false

theorem affirms_pure : Affirms (pure true : Job σ Bool) := by
  intro v h
  cases h

theorem affirms_bind {w : Job σ α} {f : α → Job σ Bool} (h : ∀ a, Affirms (f a)) :
    Affirms (w >>= f) := by
  intro v
  cases hon : w.on v with
  | mk outcome v' =>
      cases outcome with
      | error e =>
          rw [on_bind_error hon]
          exact nofun
      | ok a =>
          rw [on_bind_ok hon]
          exact h a v'

variable [Server σ] {d : Dialect}

/-- Exchanges of one kind, after which the action is done or has failed, and is done only if all
were answered. -/
structure Worked (Q : Exchange → Prop) (xs : List Exchange) (ending : Ending) : Prop where
  kind : ∀ x ∈ xs, Q x
  answered : ending = .done → ∀ x ∈ xs, x.Answered
  affirmed : ending ≠ .refused

theorem worked_of_sends {Q : Exchange → Prop} {w : Job σ Bool} (hw : Sends d Q w) (h : Affirms w)
    (v : Workspace (Network σ)) :
    ∃ xs ending v', Does d w v xs ending.outcome v' ∧ Worked Q xs ending := by
  obtain ⟨xs, outcome, v', hdoes, hkind, hanswered⟩ := hw v
  have haffirms := h v
  rw [hdoes.on] at haffirms
  cases outcome with
  | error e => exact ⟨xs, .failed e, v', hdoes, hkind, nofun, nofun⟩
  | ok b =>
      cases b with
      | false => exact absurd rfl haffirms
      | true => exact ⟨xs, .done, v', hdoes, hkind, fun _ => hanswered ⟨true, rfl⟩, nofun⟩

/-! ## Asking on a connection -/

theorem asked_does {w : StateM (Network σ) (Except ServerError α)} {xs : List Exchange}
    {v : Workspace (Network σ)} (h : Conversation d v.remote xs (w.run v.remote).2) :
    Does d (asked w) v xs ((w.run v.remote).1.mapError .connection)
      { v with remote := (w.run v.remote).2 } := by
  refine Does.bind_silent (.ask h) (.silent ?_ rfl)
  cases (w.run v.remote).1 with
  | ok a => rfl
  | error e => rfl

theorem execute_does (c : Connection) (text : String) (v : Workspace (Network σ)) :
    ∃ answer v', Does c.dialect (asked (c.execute text)) v [.run text answer]
      (answer.mapError .connection) v' ∧ v'.files = v.files :=
  ⟨_, _, asked_does (.send c (.run text) v.remote), rfl⟩

/-- The databases in an answer, without those that the server keeps for itself. -/
def listedDatabases (values : List Value) : List String :=
  (Connection.namesOf values).filter fun name =>
    !Connection.systemDatabases.contains (Text.lower name)

theorem databases_does (c : Connection) (v : Workspace (Network σ)) :
    ∃ answer v', Does c.dialect (asked c.databases) v [.databases answer]
      ((answer.map listedDatabases).mapError .connection) v' ∧ v'.files = v.files :=
  ⟨_, _, asked_does (.send c .databases v.remote), rfl⟩

theorem tables_does (c : Connection) (v : Workspace (Network σ)) :
    ∃ answer v', Does c.dialect (asked c.tables) v [.tables answer]
      ((answer.map Connection.namesOf).mapError .connection) v' ∧ v'.files = v.files :=
  ⟨_, _, asked_does (.send c .tables v.remote), rfl⟩

theorem say_does (text : String) (v : Workspace (Network σ)) :
    ∃ v', Does d (say text : Job σ Unit) v [] (.ok ()) v' ∧ v'.files = v.files :=
  ⟨_, .silent (say_on text v) rfl, rfl⟩

/-- Opening a connection is nothing that a server hears of. -/
theorem connect_does {s : Config.Settings} {server : String} {profile : Config.Profile}
    (hserver : s.server server = .ok profile) (database : Option String)
    (v : Workspace (Network σ)) :
    ∃ outcome v', Does profile.dialect (connect s server database) v [] outcome v'
      ∧ v'.files = v.files ∧ ∀ c, outcome = .ok c → c.dialect = profile.dialect := by
  cases haddress : profile.databaseUrl database with
  | error e =>
      refine ⟨.error (.address e), v, .silent ?_ rfl, rfl, nofun⟩
      unfold connect serverNamed
      rw [on_bind_ok (on_ofExcept_ok hserver), on_bind_error (on_ofExcept_error haddress)]
  | ok url =>
      obtain ⟨v₁, htold, hon⟩ := connect_on hserver haddress v
      have hopened : Conversation profile.dialect v.remote []
          ((Connection.connect (withDriver url) profile.dialect).run v₁.remote).2 := by
        rw [htold.remote]
        exact .connect _ _
      refine ⟨_, _, ⟨hon.trans (on_ask _), hopened⟩, htold.files, fun c hc => ?_⟩
      obtain rfl := Except.ok.inj hc
      rfl

/-- A connection is closed, which is nothing either. -/
theorem onConnection_does {c : Connection} {w : Job σ α} {v v₁ : Workspace (Network σ)}
    {xs : List Exchange} {outcome : Except Failure α} (h : Does d w v xs outcome v₁) :
    ∃ v', Does d (onConnection c w) v xs outcome v' ∧ v'.files = v₁.files := by
  rw [← List.append_nil xs]
  exact ⟨_, h.ensuring (.ask (.close c _)), rfl⟩

/-! ## Creating and dropping -/

/-- Statements that are carried out one after another, up to one that is not. -/
inductive Executing (texts : List String) : List Exchange → Except Failure Unit → Prop
  | stopped (before : List String) {text : String} {after : List String} {e : ServerError} :
      texts = before ++ text :: after →
      Executing texts (before.map (.run · (.ok ())) ++ [.run text (.error e)])
        (.error (.connection e))
  | executed : Executing texts (texts.map (.run · (.ok ()))) (.ok ())

theorem executeAll_does (c : Connection) (texts : List String) (v : Workspace (Network σ)) :
    ∃ xs outcome v', Does c.dialect (executeAll c texts) v xs outcome v' ∧ v'.files = v.files
      ∧ Executing texts xs outcome := by
  induction texts generalizing v with
  | nil => exact ⟨[], .ok (), v, .silent rfl rfl, rfl, .executed⟩
  | cons text texts ih =>
      obtain ⟨answer, v₁, hdoes, hfiles⟩ := execute_does c text v
      unfold executeAll
      cases answer with
      | error e => exact ⟨_, _, v₁, hdoes.bind_error, hfiles, .stopped [] rfl⟩
      | ok =>
          obtain ⟨xs, outcome, v', hrest, hfiles', hexecuting⟩ := ih v₁
          refine ⟨_, outcome, v', hdoes.bind_ok hrest, hfiles'.trans hfiles, ?_⟩
          cases hexecuting with
          | stopped before htexts => exact .stopped (text :: before) (congrArg (text :: ·) htexts)
          | executed => exact .executed

/-- How it goes to make sure that there is a database with a name. -/
inductive Providing (name : String) : Dialect → List Exchange → Except Failure Bool → Prop
  | present : Providing name .azure [] (.ok true)
  | unreachable {e : Failure} : Providing name .mysql [] (.error e)
  | unlisted {e : ServerError} :
      Providing name .mysql [.databases (.error e)] (.error (.connection e))
  | listed {values : List Value} : name ∈ listedDatabases values →
      Providing name .mysql [.databases (.ok values)] (.ok false)
  | rejected {values : List Value} {e : ServerError} : name ∉ listedDatabases values →
      Providing name .mysql
        [.databases (.ok values), .run ("CREATE DATABASE " ++ name) (.error e)]
        (.error (.connection e))
  | created {values : List Value} : name ∉ listedDatabases values →
      Providing name .mysql [.databases (.ok values), .run ("CREATE DATABASE " ++ name) (.ok ())]
        (.ok true)

theorem createEmpty_does (c : Connection) (hd : c.dialect = .mysql) (name : String)
    (v : Workspace (Network σ)) :
    ∃ xs outcome v', Does .mysql (createEmpty c name) v xs outcome v' ∧ v'.files = v.files
      ∧ Providing name .mysql xs outcome := by
  obtain ⟨answer, v₁, hlist, hfiles⟩ := databases_does c v
  rw [hd] at hlist
  unfold createEmpty
  cases answer with
  | error e => exact ⟨_, _, v₁, hlist.bind_error, hfiles, .unlisted⟩
  | ok values =>
      by_cases hlisted : name ∈ listedDatabases values
      · obtain ⟨v₂, hsay, hfiles₂⟩ := say_does (d := .mysql)
          ("[red]Cannot create database " ++ name ++ " - it is already there![/red]") v₁
        refine ⟨_, _, v₂, hlist.bind_ok ?_, hfiles₂.trans hfiles, .listed hlisted⟩
        rw [if_pos (List.contains_iff_mem.mpr hlisted)]
        exact hsay.bind_ok (.silent (on_pure false) rfl)
      · obtain ⟨made, v₂, hmake, hfiles₂⟩ := execute_does c ("CREATE DATABASE " ++ name) v₁
        rw [hd] at hmake
        have hnot : ¬ (listedDatabases values).contains name = true := by
          rwa [List.contains_iff_mem]
        cases made with
        | error e =>
            refine ⟨_, _, v₂, hlist.bind_ok ?_, hfiles₂.trans hfiles, .rejected (e := e) hlisted⟩
            rw [if_neg hnot]
            exact hmake.bind_error
        | ok =>
            refine ⟨_, _, v₂, hlist.bind_ok ?_, hfiles₂.trans hfiles, .created hlisted⟩
            rw [if_neg hnot]
            exact hmake.bind_ok (.silent (on_pure true) rfl)

variable {s : Config.Settings} {server : String} {profile : Config.Profile}

theorem provide_does (hserver : s.server server = .ok profile) (name : String)
    (v : Workspace (Network σ)) :
    ∃ xs outcome v', Does profile.dialect (provide s server profile.dialect name) v xs outcome v'
      ∧ v'.files = v.files ∧ Providing name profile.dialect xs outcome := by
  obtain ⟨opened, v₁, hconnect, hfiles₁, hdialect⟩ := connect_does hserver none v
  unfold provide
  cases hd : profile.dialect with
  | azure => exact ⟨[], .ok true, v, .silent rfl rfl, rfl, .present⟩
  | mysql =>
      rw [hd] at hconnect hdialect
      cases opened with
      | error e => exact ⟨[], _, v₁, hconnect.bind_error, hfiles₁, .unreachable⟩
      | ok c =>
          obtain ⟨xs, outcome, v₂, hcreate, hfiles₂, hproviding⟩ :=
            createEmpty_does c (hdialect c rfl) name v₁
          obtain ⟨v', hdoes, hfiles'⟩ := onConnection_does (c := c) hcreate
          refine ⟨xs, outcome, v', hconnect.bind_ok hdoes, ?_, hproviding⟩
          rw [hfiles', hfiles₂, hfiles₁]

/-- How it goes to carry out the script of a database, which there need not be. -/
inductive Scripting (d : Dialect) (db : Database) : List Exchange → Except Failure Unit → Prop
  | unscripted {e : ScriptError} : db.statements d = .error e →
      Scripting d db [] (.error (.script e))
  | executing {xs : List Exchange} {texts : List String} {outcome : Except Failure Unit} :
      db.statements d = .ok texts → Executing texts xs outcome → Scripting d db xs outcome

theorem executeScript_does {c : Connection} (hd : c.dialect = d) (db : Database)
    (v : Workspace (Network σ)) :
    ∃ xs outcome v', Does d
        (onConnection c do executeAll c (← Work.ofExcept Failure.script (db.statements d))) v xs
        outcome v'
      ∧ v'.files = v.files ∧ Scripting d db xs outcome := by
  cases hscript : db.statements d with
  | error e =>
      have hnone : Does d (Work.ofExcept Failure.script (.error e) >>= executeAll c) v []
          (.error (Failure.script e)) v := .bind_error (.silent (on_ofExcept_error rfl) rfl)
      obtain ⟨v', hdoes, hfiles⟩ := onConnection_does (c := c) hnone
      exact ⟨[], _, v', hdoes, hfiles, .unscripted hscript⟩
  | ok texts =>
      obtain ⟨xs, outcome, v₁, hexecute, hfiles₁, hexecuting⟩ := executeAll_does c texts v
      rw [hd] at hexecute
      have htexts : Does d (Work.ofExcept Failure.script (.ok texts : Except ScriptError _)) v []
          (.ok texts) v := .silent (on_ofExcept_ok rfl) rfl
      obtain ⟨v', hdoes, hfiles⟩ := onConnection_does (c := c) (htexts.bind_ok hexecute)
      exact ⟨xs, outcome, v', hdoes, hfiles.trans hfiles₁, .executing hscript hexecuting⟩

/-- How it goes to create a database and its tables. -/
inductive Creating (d : Dialect) (db : Database) : List Exchange → Ending → Prop
  | unprovided {xs : List Exchange} {e : Failure} : Providing db.name d xs (.error e) →
      Creating d db xs (.failed e)
  | refused {xs : List Exchange} : Providing db.name d xs (.ok false) → Creating d db xs .refused
  | unreachable {xs : List Exchange} {e : Failure} : Providing db.name d xs (.ok true) →
      Creating d db xs (.failed e)
  | scripting {xs ys : List Exchange} {outcome : Except Failure Unit} :
      Providing db.name d xs (.ok true) → Scripting d db ys outcome →
      Creating d db (xs ++ ys) (.after outcome)

/-- The server is among those of the settings. -/
theorem serverNamed_does (hserver : s.server server = .ok profile) (v : Workspace (Network σ)) :
    Does d (serverNamed s server : Job σ _) v [] (.ok profile) v :=
  .silent (on_ofExcept_ok hserver) rfl

theorem create_does (hserver : s.server server = .ok profile) (db : Database)
    (v : Workspace (Network σ)) :
    ∃ xs ending v', Does profile.dialect (create s server db) v xs ending.outcome v'
      ∧ v'.files = v.files ∧ Creating profile.dialect db xs ending := by
  have hnamed := serverNamed_does (d := profile.dialect) hserver v
  obtain ⟨xs, provided, v₁, hprovide, hfiles₁, hproviding⟩ := provide_does hserver db.name v
  unfold create
  cases provided with
  | error e =>
      exact ⟨xs, .failed e, v₁, hnamed.bind_ok hprovide.bind_error, hfiles₁, .unprovided hproviding⟩
  | ok ready =>
      cases ready with
      | false =>
          refine ⟨xs, .refused, v₁, ?_, hfiles₁, .refused hproviding⟩
          exact hnamed.bind_ok (hprovide.bind_silent (.silent (on_pure false) rfl))
      | true =>
          -- the tables are created on a connection of their own, which can fail, too
          obtain ⟨opened, v₂, hconnect, hfiles₂, hdialect⟩ :=
            connect_does hserver (some db.name) v₁
          rw [hfiles₁] at hfiles₂
          cases opened with
          | error e =>
              refine ⟨xs, .failed e, v₂, ?_, hfiles₂, .unreachable hproviding⟩
              exact hnamed.bind_ok (hprovide.bind_silent hconnect.bind_error)
          | ok c =>
              obtain ⟨ys, outcome, v₃, hscript, hfiles₃, hscripting⟩ :=
                executeScript_does (hdialect c rfl) db v₂
              rw [hfiles₂] at hfiles₃
              have hcourse := Creating.scripting hproviding hscripting
              cases outcome with
              | error e =>
                  refine ⟨_, _, v₃, ?_, hfiles₃, hcourse⟩
                  exact hnamed.bind_ok (hprovide.bind_ok (hconnect.bind_ok hscript.bind_error))
              | ok =>
                  obtain ⟨v₄, hsay, hfiles₄⟩ := say_does (d := profile.dialect)
                    ("[bold green]v[/bold green] Created database [cyan]" ++ db.name
                      ++ "[/cyan] with " ++ Text.decimal db.tables.length ++ " tables") v₃
                  refine ⟨_, _, v₄, ?_, hfiles₄.trans hfiles₃, hcourse⟩
                  exact hnamed.bind_ok (hprovide.bind_ok (hconnect.bind_ok
                    (hscript.bind_silent (hsay.bind_ok (.silent (on_pure true) rfl)))))

/-- How it goes to drop a database. -/
inductive Dropping (name : String) : Dialect → List Exchange → Ending → Prop
  | refused : Dropping name .azure [] .refused
  | unreachable {e : Failure} : Dropping name .mysql [] (.failed e)
  | dropping (answer : Except ServerError Unit) :
      Dropping name .mysql [.run ("DROP DATABASE " ++ name) answer]
        (.after (answer.mapError Failure.connection))

theorem drop_does (hserver : s.server server = .ok profile) (db : Database)
    (v : Workspace (Network σ)) :
    ∃ xs ending v', Does profile.dialect (drop s server db) v xs ending.outcome v'
      ∧ v'.files = v.files ∧ Dropping db.name profile.dialect xs ending := by
  have hnamed := serverNamed_does (d := profile.dialect) hserver v
  unfold drop
  cases hd : profile.dialect with
  | azure =>
      rw [hd] at hnamed
      obtain ⟨v₁, hsay, hfiles₁⟩ :=
        say_does (d := .azure) "[red]Can only use drop action on MySQL databases![/red]" v
      refine ⟨[], .refused, v₁, hnamed.bind_ok ?_, hfiles₁, .refused⟩
      rw [hd, if_pos (by decide)]
      exact hsay.bind_ok (.silent (on_pure false) rfl)
  | mysql =>
      rw [hd] at hnamed
      obtain ⟨opened, v₁, hconnect, hfiles₁, hdialect⟩ := connect_does hserver none v
      rw [hd] at hconnect hdialect
      cases opened with
      | error e =>
          refine ⟨[], .failed e, v₁, hnamed.bind_ok ?_, hfiles₁, .unreachable⟩
          rw [hd, if_neg (by decide)]
          exact hconnect.bind_error
      | ok c =>
          obtain ⟨answer, v₂, hexecute, hfiles₂⟩ :=
            execute_does c ("DROP DATABASE " ++ db.name) v₁
          obtain ⟨v₃, hdrop, hfiles₃⟩ := onConnection_does (c := c) hexecute
          rw [hdialect c rfl] at hdrop
          rw [hfiles₂, hfiles₁] at hfiles₃
          cases answer with
          | error e =>
              refine ⟨_, _, v₃, hnamed.bind_ok ?_, hfiles₃, .dropping (.error e)⟩
              rw [hd, if_neg (by decide)]
              exact hconnect.bind_ok hdrop.bind_error
          | ok =>
              obtain ⟨v₄, hsay, hfiles₄⟩ := say_does (d := .mysql)
                ("[bold green]v[/bold green] Dropped database [cyan]" ++ db.name ++ "[/cyan]") v₃
              refine ⟨_, _, v₄, hnamed.bind_ok ?_, hfiles₄.trans hfiles₃, .dropping (.ok ())⟩
              rw [hd, if_neg (by decide)]
              exact hconnect.bind_ok
                (hdrop.bind_silent (hsay.bind_ok (.silent (on_pure true) rfl)))

/-! ## Live tables -/

/-- It is asked whether the server is there. -/
def IsProbe (x : Exchange) : Prop :=
  ∃ answer, x = .probe answer

theorem probe_does (c : Connection) (v : Workspace (Network σ)) :
    ∃ answer v', Does c.dialect (Work.ask c.probe : Work _ ServerError _) v [.probe answer]
      (.ok answer) v' ∧ v'.files = v.files :=
  ⟨_, _, .ask (.send c .probe v.remote), rfl⟩

theorem pause_does (seconds : Rat) (v : Workspace (Network σ)) :
    ∃ v', Does d (pause seconds) v [] (.ok ()) v' ∧ v'.files = v.files := by
  unfold pause
  exact ⟨_, Does.bind_ok (.silent (on_log _ _) rfl) (.ask (.wait seconds _)), rfl⟩

theorem tryAgain_does (c : Connection) (delay : Rat) (made left : Nat) (v : Workspace (Network σ)) :
    ∃ xs outcome v', Does c.dialect (c.tryAgain delay made left) v xs outcome v'
      ∧ v'.files = v.files ∧ ∀ x ∈ xs, IsProbe x := by
  induction left generalizing made v with
  | zero => exact ⟨[], .ok (), v, .silent rfl rfl, rfl, List.forall_mem_nil _⟩
  | succ left ih =>
      obtain ⟨answer, v₁, hasked, hfiles₁⟩ := probe_does c v
      have hprobe : IsProbe (.probe answer) := ⟨answer, rfl⟩
      have hone := List.forall_mem_singleton.mpr hprobe
      unfold Connection.tryAgain
      cases answer with
      | ok => exact ⟨_, _, v₁, hasked.bind_silent (.silent (on_pure ()) rfl), hfiles₁, hone⟩
      | error e =>
          -- only a timeout is waited out, and only while there are attempts left
          by_cases hagain : (isTimeout e && left != 0) = true
          · obtain ⟨v₂, hpause, hfiles₂⟩ :=
              pause_does (d := c.dialect) (delay * ((made + 1 : Nat) : Rat)) v₁
            obtain ⟨xs, outcome, v', hrest, hfiles', hprobes⟩ := ih (made + 1) v₂
            refine ⟨_, outcome, v', hasked.bind_ok ?_, ?_,
              List.forall_mem_cons.mpr ⟨hprobe, hprobes⟩⟩
            · dsimp only
              rw [if_pos hagain]
              exact hpause.bind_ok hrest
            · rw [hfiles', hfiles₂, hfiles₁]
          · refine ⟨_, .error e, v₁, hasked.bind_silent ?_, hfiles₁, hone⟩
            dsimp only
            rw [if_neg hagain]
            exact .silent (on_fail e) rfl

/-- The live tables are those of the definition, letter case apart, and there are some. -/
def Fits (db : Database) (live : List String) : Prop :=
  live ≠ [] ∧ Check.SameNames live (db.tables.map (·.name))

/-- How it goes to compare the live tables with the definition. -/
inductive Matching (db : Database) : Except ServerError (List Value) → Except Failure Bool → Prop
  | unlisted {e : ServerError} : Matching db (.error e) (.error (.connection e))
  | differing {values : List Value} : ¬ Fits db (Connection.namesOf values) →
      Matching db (.ok values) (.ok false)
  | fitting {values : List Value} : Fits db (Connection.namesOf values) →
      Matching db (.ok values) (.ok true)

theorem tablesMatch_does (db : Database) (c : Connection) (v : Workspace (Network σ)) :
    ∃ answer outcome v', Does c.dialect (tablesMatch db c) v [.tables answer] outcome v'
      ∧ v'.files = v.files ∧ Matching db answer outcome := by
  obtain ⟨answer, v₁, hlist, hfiles₁⟩ := tables_does c v
  unfold tablesMatch
  cases answer with
  | error e => exact ⟨_, _, v₁, hlist.bind_error, hfiles₁, .unlisted⟩
  | ok values =>
      -- a definition may have no tables, so that there are none has to be said apart
      cases hempty : (Connection.namesOf values).isEmpty with
      | true =>
          obtain ⟨v₂, hsay, hfiles₂⟩ := say_does (d := c.dialect)
            ("[red]Database " ++ db.name ++ " does not exist or has no tables.[/red]") v₁
          refine ⟨_, _, v₂, hlist.bind_silent ?_, hfiles₂.trans hfiles₁, .differing ?_⟩
          · rw [if_pos hempty]
            exact hsay.bind_ok (.silent (on_pure false) rfl)
          · exact fun h => h.1 (List.isEmpty_iff.mp hempty)
      | false =>
          have hnonempty : Connection.namesOf values ≠ [] := fun h => by
            rw [h] at hempty
            cases hempty
          have hfits : Fits db (Connection.namesOf values)
              ↔ (Check.tables (Connection.namesOf values) db).isValid = true :=
            (and_iff_right hnonempty).trans (Check.tables_isValid_iff _ db).symm
          cases hvalid : (Check.tables (Connection.namesOf values) db).isValid with
          | true =>
              refine ⟨_, .ok true, v₁, hlist.bind_silent ?_, hfiles₁, .fitting (hfits.mpr hvalid)⟩
              rw [if_neg (by rw [hempty]; decide)]
              dsimp only
              rw [hvalid, if_neg (by decide)]
              exact .silent (on_pure true) rfl
          | false =>
              obtain ⟨v₂, hsay, hfiles₂⟩ := say_does (d := c.dialect)
                ("[red]" ++ (Check.tables (Connection.namesOf values) db).report ++ "[/red]") v₁
              refine ⟨_, .ok false, v₂, hlist.bind_silent ?_, hfiles₂.trans hfiles₁, .differing ?_⟩
              · rw [if_neg (by rw [hempty]; decide)]
                dsimp only
                rw [hvalid, if_pos (by decide)]
                exact hsay.bind_ok (.silent (on_pure false) rfl)
              · rw [hfits, hvalid]
                decide

/-- How it goes to do something with live tables that are those of the definition. The relation `B`
is how it goes to do that. -/
inductive Visiting (db : Database) (B : List Exchange → Ending → Prop) (t : FileTree) :
    List Exchange → Ending → FileTree → Prop
  /-- There is no address, or the server does not wake up. -/
  | unreachable {probes : List Exchange} {e : Failure} : (∀ x ∈ probes, IsProbe x) →
      Visiting db B t probes (.failed e) t
  | unlisted {probes : List Exchange} {e : ServerError} : (∀ x ∈ probes, IsProbe x) →
      Visiting db B t (probes ++ [.tables (.error e)]) (.failed (.connection e)) t
  | differing {probes : List Exchange} {values : List Value} : (∀ x ∈ probes, IsProbe x) →
      ¬ Fits db (Connection.namesOf values) →
      Visiting db B t (probes ++ [.tables (.ok values)]) .refused t
  | fitting {probes xs : List Exchange} {values : List Value} {ending : Ending} {t' : FileTree} :
      (∀ x ∈ probes, IsProbe x) → Fits db (Connection.namesOf values) → B xs ending →
      Visiting db B t (probes ++ .tables (.ok values) :: xs) ending t'

/-- What is done on a connection once the server is awake. -/
theorem visit_does {B : List Exchange → Ending → Prop} {body : Connection → Job σ Bool}
    (db : Database) (c : Connection)
    (hbody : ∀ v, ∃ xs ending v', Does c.dialect (body c) v xs (Ending.outcome ending) v'
      ∧ B xs ending)
    {probes : List Exchange} (hprobes : ∀ x ∈ probes, IsProbe x) (v : Workspace (Network σ)) :
    ∃ xs ending v', Does c.dialect (do
        if !(← tablesMatch db c) then return false
        body c) v xs (Ending.outcome ending) v'
      ∧ Visiting db B v.files (probes ++ xs) ending v'.files := by
  obtain ⟨answer, outcome, v₁, hlist, hfiles₁, hmatching⟩ := tablesMatch_does db c v
  cases hmatching with
  | unlisted =>
      rename_i e
      refine ⟨_, .failed (.connection e), v₁, hlist.bind_error, ?_⟩
      rw [hfiles₁]
      exact .unlisted hprobes
  | differing hdiffers =>
      refine ⟨_, .refused, v₁, hlist.bind_silent (.silent (on_pure false) rfl), ?_⟩
      rw [hfiles₁]
      exact .differing hprobes hdiffers
  | fitting hfits =>
      obtain ⟨xs, ending, v', hdoes, hB⟩ := hbody v₁
      exact ⟨_, ending, v', hlist.bind_ok hdoes, .fitting hprobes hfits hB⟩

/-- What is done on a connection, before which it may have to be waited for the server. -/
theorem awake_does {B : List Exchange → Ending → Prop} {body : Connection → Job σ Bool}
    (db : Database) (c : Connection)
    (hbody : ∀ v, ∃ xs ending v', Does c.dialect (body c) v xs (Ending.outcome ending) v'
      ∧ B xs ending)
    (sleepy : Bool) (v : Workspace (Network σ)) :
    ∃ xs ending v', Does c.dialect (do
        if sleepy then
          Work.rename Failure.connection (c.waitUntilAvailable usualAttempts usualDelay)
        if !(← tablesMatch db c) then return false
        body c) v xs (Ending.outcome ending) v'
      ∧ Visiting db B v.files xs ending v'.files := by
  cases sleepy with
  | false => exact visit_does db c hbody (List.forall_mem_nil _) v
  | true =>
      obtain ⟨probes, outcome, v₁, hwait, hfiles₁, hprobes⟩ :=
        tryAgain_does c usualDelay 0 usualAttempts v
      have hrenamed := hwait.rename (f := Failure.connection)
      cases outcome with
      | error e =>
          refine ⟨probes, .failed (.connection e), v₁, hrenamed.bind_error, ?_⟩
          rw [hfiles₁]
          exact .unreachable hprobes
      | ok =>
          obtain ⟨xs, ending, v', hvisit, hvisiting⟩ := visit_does db c hbody hprobes v₁
          rw [hfiles₁] at hvisiting
          exact ⟨_, ending, v', hrenamed.bind_ok hvisit, hvisiting⟩

theorem onLiveTables_does {B : Dialect → List Exchange → Ending → Prop}
    {body : Connection → Job σ Bool} (hserver : s.server server = .ok profile) (db : Database)
    (hbody : ∀ c v, ∃ xs ending v', Does c.dialect (body c) v xs (Ending.outcome ending) v'
      ∧ B c.dialect xs ending)
    (v : Workspace (Network σ)) :
    ∃ xs ending v', Does profile.dialect (onLiveTables s server db body) v xs
        (Ending.outcome ending) v'
      ∧ Visiting db (B profile.dialect) v.files xs ending v'.files := by
  have hnamed := serverNamed_does (d := profile.dialect) hserver v
  obtain ⟨opened, v₁, hconnect, hfiles₁, hdialect⟩ := connect_does hserver (some db.name) v
  unfold onLiveTables
  cases opened with
  | error e =>
      refine ⟨[], .failed e, v₁, hnamed.bind_ok hconnect.bind_error, ?_⟩
      rw [hfiles₁]
      exact .unreachable (List.forall_mem_nil _)
  | ok c =>
      have hc := hdialect c rfl
      obtain ⟨xs, ending, v₂, hvisit, hvisiting⟩ :=
        awake_does db c (hbody c) (profile.dialect == .azure) v₁
      obtain ⟨v', hdoes, hfiles'⟩ := onConnection_does (c := c) hvisit
      rw [hc] at hdoes hvisiting
      refine ⟨xs, ending, v', hnamed.bind_ok (hconnect.bind_ok hdoes), ?_⟩
      rw [hfiles', ← hfiles₁]
      exact hvisiting

/-! ## The actions -/

/-- The four actions on live tables. -/
def Action.isLive : Action → Bool
  | .create | .drop => false
  | .backup | .restore | .report | .check => true

/-- How it goes to do something with live tables. Rows are asked for, and nothing else, unless they
are to be restored. -/
inductive Using (action : Action) (d : Dialect) (db : Database) : List Exchange → Ending → Prop
  | reading {xs : List Exchange} {ending : Ending} : action ≠ .restore →
      Worked Exchange.IsRead xs ending → Using action d db xs ending
  | asking {xs : List Exchange} {e : Failure} : action = .restore → (∀ x ∈ xs, x.IsRead) →
      Using action d db xs (.failed e)
  | inserting {xs : List Exchange} {ending : Ending} : action = .restore →
      Worked (Exchange.Inserts d) xs ending →
      Using action d db (db.tables.map RestorePlan.foundEmpty ++ xs) ending

theorem backUp_does (around : Surroundings) (db : Database) (c : Connection)
    (v : Workspace (Network σ)) :
    ∃ xs ending v', Does c.dialect (backUp around s db c) v xs (Ending.outcome ending) v'
      ∧ Using .backup c.dialect db xs ending := by
  have hsends : Sends (σ := σ) c.dialect Exchange.IsRead (backUp around s db c) := by
    unfold backUp
    exact .bind (.rename (BackupPlan.run_sends _ c)) fun path => .bind (.tell _) fun _ => .pure true
  have haffirms : Affirms (σ := σ) (backUp around s db c) := by
    unfold backUp
    exact affirms_bind fun _ => affirms_bind fun _ => affirms_pure
  obtain ⟨xs, ending, v', hdoes, hworked⟩ := worked_of_sends hsends haffirms v
  exact ⟨xs, ending, v', hdoes, .reading (by decide) hworked⟩

theorem report_does (db : Database) (c : Connection) (v : Workspace (Network σ)) :
    ∃ xs ending v', Does c.dialect (report db c) v xs (Ending.outcome ending) v'
      ∧ Using .report c.dialect db xs ending := by
  have hsends : Sends (σ := σ) c.dialect Exchange.IsRead (report db c) := by
    unfold report
    refine .ask (Digest.tableReports_talks c db.tables) (fun answer => ?_) fun answer hbad => ?_
    · exact .bind (.ofExcept _ answer) fun reports => .bind (.tell _) fun _ => .pure true
    · exact (fails_ofExcept hbad).bind
  have haffirms : Affirms (σ := σ) (report db c) := by
    unfold report
    exact affirms_bind fun _ => affirms_bind fun _ => affirms_bind fun _ => affirms_pure
  obtain ⟨xs, ending, v', hdoes, hworked⟩ := worked_of_sends hsends haffirms v
  exact ⟨xs, ending, v', hdoes, .reading (by decide) hworked⟩

theorem check_does (db : Database) (c : Connection) (v : Workspace (Network σ)) :
    ∃ xs ending v', Does c.dialect (check db c) v xs (Ending.outcome ending) v'
      ∧ Using .check c.dialect db xs ending := by
  have hall (style : String) (texts : List String) :
      Sends c.dialect Exchange.IsRead (sayAll style texts : Job σ Unit) := by
    induction texts with
    | nil => exact .pure ()
    | cons text texts ih => exact .bind (.tell _) fun _ => ih
  have hsends : Sends (σ := σ) c.dialect Exchange.IsRead (check db c) := by
    have hasked : Sends (σ := σ) c.dialect Exchange.IsRead (asked (Check.database c.rows db)) :=
      .ask (Check.database_talks c db) (fun answer => .ofExcept _ answer) fun _ => fails_ofExcept
    unfold check
    refine .bind (.tell _) fun _ => .bind hasked fun result => .bind (hall _ _) fun _ => ?_
    exact .bind (hall _ _) fun _ => .bind (hall _ _) fun _ => .pure true
  have haffirms : Affirms (σ := σ) (check db c) := by
    unfold check
    refine affirms_bind fun _ => affirms_bind fun _ => affirms_bind fun _ => ?_
    exact affirms_bind fun _ => affirms_bind fun _ => affirms_pure
  obtain ⟨xs, ending, v', hdoes, hworked⟩ := worked_of_sends hsends haffirms v
  exact ⟨xs, ending, v', hdoes, .reading (by decide) hworked⟩

theorem restore_does (db : Database) (backup : Option String) (c : Connection)
    (v : Workspace (Network σ)) :
    ∃ xs ending v', Does c.dialect (restore s db backup c) v xs (Ending.outcome ending) v'
      ∧ Using .restore c.dialect db xs ending := by
  obtain ⟨xs, outcome, v₁, hrun, hrestores⟩ := RestorePlan.run_does
    ⟨db, Path.ofText s.repository, backup, c.dialect, Plural.ofName, none⟩ c v
  have hrenamed := hrun.rename (f := Failure.repository)
  unfold restore
  cases outcome with
  | error e =>
      refine ⟨xs, .failed (.repository e), v₁, hrenamed.bind_error, ?_⟩
      cases hrestores with
      | asked hreads => exact .asking rfl hreads
      | inserted hinserts hanswered => exact .inserting rfl ⟨hinserts, nofun, nofun⟩
  | ok restored =>
      obtain ⟨v₂, hsay, -⟩ := say_does (d := c.dialect)
        ("[bold green]v[/bold green] Restored " ++ Text.decimal restored.total
          ++ " rows into [cyan]" ++ db.name ++ "[/cyan] from " ++ restored.backup.toText) v₁
      refine ⟨xs, .done, v₂,
        hrenamed.bind_silent (hsay.bind_ok (.silent (on_pure true) rfl)), ?_⟩
      cases hrestores with
      | inserted hinserts hanswered =>
          exact .inserting rfl ⟨hinserts, fun _ => hanswered ⟨restored, rfl⟩, nofun⟩

/-- How an action goes. -/
inductive Course (action : Action) (d : Dialect) (db : Database) (t : FileTree) :
    List Exchange → Ending → FileTree → Prop
  | creating {xs : List Exchange} {ending : Ending} : action = .create → Creating d db xs ending →
      Course action d db t xs ending t
  | dropping {xs : List Exchange} {ending : Ending} : action = .drop →
      Dropping db.name d xs ending → Course action d db t xs ending t
  | visiting {xs : List Exchange} {ending : Ending} {t' : FileTree} : action.isLive = true →
      Visiting db (Using action d db) t xs ending t' → Course action d db t xs ending t'

/-- **How an action goes**, whatever the server answers. -/
theorem act_does (around : Surroundings) (hserver : s.server server = .ok profile) (db : Database)
    (backup : Option String) (action : Action) (v : Workspace (Network σ)) :
    ∃ xs ending v', Does profile.dialect (act around s server db backup action) v xs
        (Ending.outcome ending) v'
      ∧ Course action profile.dialect db v.files xs ending v'.files := by
  cases action with
  | create =>
      obtain ⟨xs, ending, v', hdoes, hfiles, hcreating⟩ := create_does hserver db v
      exact ⟨xs, ending, v', hdoes, hfiles ▸ .creating rfl hcreating⟩
  | drop =>
      obtain ⟨xs, ending, v', hdoes, hfiles, hdropping⟩ := drop_does hserver db v
      exact ⟨xs, ending, v', hdoes, hfiles ▸ .dropping rfl hdropping⟩
  | backup =>
      obtain ⟨xs, ending, v', hdoes, hvisiting⟩ := onLiveTables_does
        (B := fun d => Using .backup d db) hserver db (backUp_does around db) v
      exact ⟨xs, ending, v', hdoes, .visiting rfl hvisiting⟩
  | restore =>
      obtain ⟨xs, ending, v', hdoes, hvisiting⟩ := onLiveTables_does
        (B := fun d => Using .restore d db) hserver db (restore_does db backup) v
      exact ⟨xs, ending, v', hdoes, .visiting rfl hvisiting⟩
  | report =>
      obtain ⟨xs, ending, v', hdoes, hvisiting⟩ := onLiveTables_does
        (B := fun d => Using .report d db) hserver db (report_does db) v
      exact ⟨xs, ending, v', hdoes, .visiting rfl hvisiting⟩
  | check =>
      obtain ⟨xs, ending, v', hdoes, hvisiting⟩ := onLiveTables_does
        (B := fun d => Using .check d db) hserver db (check_does db) v
      exact ⟨xs, ending, v', hdoes, .visiting rfl hvisiting⟩

end Tablekeep.Command
