import Tablekeep.Proofs.Command.Rounds
import Tablekeep.Proofs.Command.Within
import Tablekeep.Proofs.Files.Change
import Tablekeep.Proofs.Repository.Latest
import Tablekeep.Proofs.Script.Openings
import Tablekeep.Proofs.Server.Conversation

/-!
# Which database an action is about

The definition of a database is looked for under the name that the user gives, or that the server
lists. What is in the file says a name once more, and nobody compares the two: from there on the
action goes by the name in the definition. It is this database that connections are opened to, that
is created or dropped, whose backup is written, and whose latest archive is restored. `About` says
so of an action, and `carryOut_about` of a whole run.

All that an action does is a sequence of steps, each of which is about that database. So the proof
goes through the program once, with the bounds that `About` sets.
-/

namespace Tablekeep

open Files Server Repository Work

namespace Server

/-! ## What an event is about -/

/-- The address that the event is about. -/
def Event.url? : Event → Option String
  | opened _ url | refused _ url _ | sent _ url _ _ | closed _ url => some url
  | waited _ => none

/-- The statement that the event is about. -/
def Event.text? : Event → Option String
  | sent _ _ _ text => some text
  | _ => none

variable {σ : Type} {P : Event → Prop}

/-- The trace goes on with events of one kind. -/
def Emitted (P : Event → Prop) (n n' : Network σ) : Prop :=
  ∃ events, n'.trace = n.trace ++ events ∧ ∀ e ∈ events, P e

theorem Emitted.refl (n : Network σ) : Emitted P n n :=
  ⟨[], by rw [List.append_nil], List.forall_mem_nil _⟩

theorem Emitted.trans {n n' n'' : Network σ} (h : Emitted P n n') (h' : Emitted P n' n'') :
    Emitted P n n'' := by
  obtain ⟨events, htrace, hP⟩ := h
  obtain ⟨events', htrace', hP'⟩ := h'
  refine ⟨events ++ events', ?_, List.forall_mem_append.mpr ⟨hP, hP'⟩⟩
  rw [htrace', htrace, List.append_assoc]

theorem Emitted.one {n n' : Network σ} {e : Event} (htrace : n'.trace = n.trace ++ [e])
    (h : P e) : Emitted P n n' :=
  ⟨[e], htrace, List.forall_mem_singleton.mpr h⟩

end Server

namespace Command

/-- The words with which a database is created or dropped. -/
def databaseOpenings : List String :=
  ["CREATE DATABASE", "DROP DATABASE"]

/-- The address is the one of the database, or of the one that every server has. -/
inductive AddressOf (profile : Config.Profile) (name : String) : String → Prop
  | own {url : String} : profile.databaseUrl (some name) = .ok url →
      AddressOf profile name (withDriver url)
  | default {url : String} : profile.databaseUrl none = .ok url →
      AddressOf profile name (withDriver url)

/-- If the statement creates or drops a database, it is the one with the name. -/
def NamesOnly (name text : String) : Prop :=
  ∀ w ∈ databaseOpenings, Text.beginsWith text w = true → text = ended (w ++ " " ++ name)

/-- The event is about the database with the name, if it is about any. -/
structure Concerns (profile : Config.Profile) (name : String) (e : Event) : Prop where
  address : ∀ url, e.url? = some url → AddressOf profile name url
  statement : ∀ text, e.text? = some text → NamesOnly name text

/-! ### Statements -/

variable {name text : String}

/-- The ways in which all other statements begin. -/
def otherOpenings : List String :=
  ["SELECT", "SHOW", "INSERT", "SET IDENTITY_INSERT"] ++ scriptOpenings

theorem namesOnly_of_opens {w : String} (hw : w ∈ otherOpenings)
    (h : Text.beginsWith text w = true) : NamesOnly name text := by
  have hall : ∀ w ∈ otherOpenings, ∀ v ∈ databaseOpenings,
      Text.beginsWith w v = false ∧ Text.beginsWith v w = false := by
    decide +kernel
  intro v hv hopens
  obtain ⟨hwv, hvw⟩ := hall w hw v hv
  cases hopens.symm.trans (Text.not_beginsWith h hwv hvw)

/-- A statement to be carried out that begins in one of these ways. -/
theorem namesOnly_run {w : String} (hw : w ∈ otherOpenings)
    (h : Text.beginsWith text w = true) (d : Dialect) :
    NamesOnly name ((Statement.run text).text d) := by
  have hbare : ∀ w ∈ otherOpenings, Text.isBare w = true := by decide +kernel
  have hopens : Text.beginsWith (ended text) w = true := Text.beginsWith_ended (hbare w hw) h
  unfold Statement.text
  exact namesOnly_of_opens hw hopens

theorem namesOnly_databases (d : Dialect) : NamesOnly name (Statement.databases.text d) := by
  cases d with
  | mysql => exact namesOnly_of_opens (w := "SHOW") (by decide +kernel) (by decide +kernel)
  | azure => exact namesOnly_of_opens (w := "SELECT") (by decide +kernel) (by decide +kernel)

theorem namesOnly_tables (d : Dialect) : NamesOnly name (Statement.tables.text d) := by
  cases d with
  | mysql => exact namesOnly_of_opens (w := "SHOW") (by decide +kernel) (by decide +kernel)
  | azure => exact namesOnly_of_opens (w := "SELECT") (by decide +kernel) (by decide +kernel)

theorem namesOnly_probe (d : Dialect) : NamesOnly name (Statement.probe.text d) :=
  namesOnly_of_opens (w := "SELECT") (by decide +kernel) (by cases d <;> decide +kernel)

theorem namesOnly_select (request : RowRequest) (d : Dialect) :
    NamesOnly name ((Statement.select request).text d) :=
  namesOnly_of_opens (w := "SELECT") (by decide +kernel) (selectText_opens d request)

theorem namesOnly_batch (row : Backup.RowInsert) (d d' : Dialect) :
    NamesOnly name ((Statement.run (row.batch d)).text d') := by
  unfold Backup.RowInsert.batch
  split
  · refine namesOnly_run (w := "SET IDENTITY_INSERT") (by decide +kernel) ?_ d'
    repeat with_reducible apply Text.beginsWith_append
    decide
  · refine namesOnly_run (w := "INSERT") (by decide +kernel) ?_ d'
    unfold Backup.RowInsert.statement
    repeat with_reducible apply Text.beginsWith_append
    decide

theorem namesOnly_script (h : OpensScript text) (d : Dialect) :
    NamesOnly name ((Statement.run text).text d) := by
  obtain ⟨w, hw, hopens⟩ := h
  exact namesOnly_run (List.mem_append_right _ hw) hopens d

/-- A statement that creates or drops the database with the name. -/
theorem namesOnly_database {w : String} (hw : w ∈ databaseOpenings) (name : String)
    (d : Dialect) : NamesOnly name ((Statement.run (w ++ " " ++ name)).text d) := by
  have hall : ∀ w ∈ databaseOpenings, Text.isBare w = true ∧ ∀ v ∈ databaseOpenings, v ≠ w →
      Text.beginsWith w v = false ∧ Text.beginsWith v w = false := by
    decide +kernel
  obtain ⟨hbare, hothers⟩ := hall w hw
  have hopens : Text.beginsWith (ended (w ++ " " ++ name)) w = true := by
    refine Text.beginsWith_ended hbare ?_
    rw [String.append_assoc]
    exact Text.beginsWith_append (Text.beginsWith_iff.mpr (List.prefix_refl _)) _
  intro v hv hopens'
  by_cases hvw : v = w
  · rw [hvw]
    rfl
  · obtain ⟨hwv, hvw⟩ := hothers v hv hvw
    cases hopens'.symm.trans (Text.not_beginsWith hopens hwv hvw)

/-! ## Bounds -/

variable {σ α : Type} (around : Surroundings) (s : Config.Settings) (profile : Config.Profile)
  (action : Action) (db : Database)

/-- How the database is backed up on the day. -/
abbrev dailyBackup : BackupPlan :=
  ⟨db, Path.ofText s.repository, around.today, true, Plural.ofName, none⟩

/-- What becomes of the files: a backup writes the document of the day and its archive, and nothing
but a restoration writes anything else. -/
structure Filed (t t' : FileTree) : Prop where
  kept : action ≠ .backup → action ≠ .restore → t' = t
  written : action = .backup → t.Apart (dailyBackup around s db).Bears t'

/-- The action is about the database, and no other. -/
def about : Bounds (Network σ) where
  files := Filed around s action db
  remote := Emitted (Concerns profile db.name)
  files_refl t := ⟨fun _ _ => rfl, fun _ => .refl t⟩
  files_trans h h' := ⟨fun hbackup hrestore =>
      (h'.kept hbackup hrestore).trans (h.kept hbackup hrestore),
    fun hbackup => (h.written hbackup).trans (h'.written hbackup)⟩
  remote_refl := .refl
  remote_trans := .trans

variable {around s profile action db}

/-! ### Connections -/

theorem close_allowed {c : Connection} (hc : AddressOf profile db.name c.url) :
    (about (σ := σ) around s profile action db).Allows c.close := by
  intro n
  refine .one (e := .closed c.number c.url) rfl ⟨fun url hurl => ?_, nofun⟩
  obtain rfl := Option.some.inj hurl
  exact hc

theorem wait_allowed (seconds : Rat) :
    (about (σ := σ) around s profile action db).Allows (record (.waited seconds)) :=
  fun _ => .one (e := .waited seconds) rfl ⟨nofun, nofun⟩

/-- Whatever is done on a connection to the database, or to the one that every server has. -/
theorem connect_within {server : String} (hserver : s.server server = .ok profile)
    {database : Option String} (hdatabase : database = none ∨ database = some db.name)
    {f : Connection → Job σ α}
    (hf : ∀ c, AddressOf profile db.name c.url →
      Within (about around s profile action db) (f c)) :
    Within (about around s profile action db) (connect s server database >>= f) := by
  intro v
  rcases connect_cases s server database v with
    ⟨e, hon⟩ | ⟨profile', c, v₁, hserver', haddress, hon, hsame, hopens⟩
  · rw [on_bind_error hon]
    exact ⟨Bounds.files_refl _ _, Bounds.remote_refl _ _⟩
  · obtain rfl := Except.ok.inj (hserver.symm.trans hserver')
    have hc : AddressOf profile db.name c.url := by
      obtain ⟨url, hurl, hdriver⟩ := Outcome.map_eq_ok_iff.mp haddress
      rw [← hdriver]
      rcases hdatabase with rfl | rfl
      · exact .default hurl
      · exact .own hurl
    obtain ⟨hfiles, hremote⟩ := hf c hc v₁
    rw [on_bind_ok hon, ← hsame]
    refine ⟨hfiles, Emitted.trans (.one hopens.trace ⟨fun url hurl => ?_, nofun⟩) hremote⟩
    obtain rfl := Option.some.inj hurl
    exact hc

variable [Server σ]

theorem send_allowed {c : Connection} (hc : AddressOf profile db.name c.url) {st : Statement α}
    (hst : NamesOnly db.name (st.text c.dialect)) :
    (about (σ := σ) around s profile action db).Allows (c.send st) := by
  intro n
  rw [send_run]
  have haddress (url : String) (hurl : some c.url = some url) : AddressOf profile db.name url :=
    Option.some.inj hurl ▸ hc
  rcases Server.accept n.server c.url with ⟨_ | text, server⟩
  · refine .one rfl ⟨haddress, fun text htext => ?_⟩
    obtain rfl := Option.some.inj htext
    exact hst
  · exact .one rfl ⟨haddress, nofun⟩

theorem rows_allowed {c : Connection} (hc : AddressOf profile db.name c.url)
    (request : RowRequest) :
    (about (σ := σ) around s profile action db).Allows (c.rows request) :=
  send_allowed hc (namesOnly_select request c.dialect)

/-! ## Actions -/

theorem create_within {server : String} (hserver : s.server server = .ok profile) :
    Within (about (σ := σ) around s profile action db) (create s server db) := by
  have hprovide : Within (about (σ := σ) around s profile action db)
      (provide s server profile.dialect db.name) := by
    have hcreate (d : Dialect) := namesOnly_database (List.mem_cons_self ..) db.name d
    unfold provide
    split
    · exact .pure _
    · refine connect_within hserver (.inl rfl) fun c hc =>
        onConnection_within (close_allowed hc) ?_
      exact createEmpty_within (send_allowed hc (namesOnly_databases c.dialect))
        (send_allowed hc (hcreate c.dialect))
  unfold create
  refine .ofExcept_bind fun profile' hprofile => ?_
  obtain rfl := Except.ok.inj (hserver.symm.trans hprofile)
  refine .bind hprovide fun ready => .ite (.pure _) ?_
  refine connect_within hserver (.inr rfl) fun c hc =>
    .bind (onConnection_within (close_allowed hc) ?_) fun _ => .bind (.tell _) fun _ => .pure _
  refine .ofExcept_bind fun texts htexts => executeAll_within fun text htext => ?_
  exact send_allowed hc (namesOnly_script (Database.statements_open htexts text htext) c.dialect)

theorem drop_within {server : String} (hserver : s.server server = .ok profile) :
    Within (about (σ := σ) around s profile action db) (drop s server db) := by
  have hdrop (c : Connection) := namesOnly_database
    (List.mem_cons_of_mem _ (List.mem_singleton_self _)) db.name c.dialect
  unfold drop
  refine .ofExcept_bind fun profile' hprofile => .ite ?_ ?_
  · exact .bind (.tell _) fun _ => .pure _
  · refine connect_within hserver (.inl rfl) fun c hc => ?_
    refine .bind (onConnection_within (close_allowed hc) ?_) fun _ =>
      .bind (.tell _) fun _ => .pure _
    exact asked_within (send_allowed hc (hdrop c))

/-! ### Live tables -/

theorem onLiveTables_within {server : String} (hserver : s.server server = .ok profile)
    {body : Connection → Job σ Bool}
    (hbody : ∀ c, AddressOf profile db.name c.url →
      Within (about around s profile action db) (body c)) :
    Within (about around s profile action db) (onLiveTables s server db body) := by
  unfold onLiveTables
  refine .ofExcept_bind fun profile' _ => connect_within hserver (.inr rfl) fun c hc => ?_
  refine onConnection_within (close_allowed hc) (onTables_within _ ?_ wait_allowed ?_ (hbody c hc))
  · exact send_allowed hc (namesOnly_probe c.dialect)
  · exact send_allowed hc (namesOnly_tables c.dialect)

theorem backUp_about {c : Connection} (hc : AddressOf profile db.name c.url) :
    Within (about (σ := σ) around s profile .backup db) (backUp around s db c) := by
  have hfiled {t t' : FileTree} (h : t.Apart (dailyBackup around s db).Bears t') :
      (about (σ := σ) around s profile .backup db).files t t' :=
    ⟨fun h => absurd rfl h, fun _ => h⟩
  refine backUp_within (BackupPlan.run_within (rows_allowed hc) ?_ ?_ ?_)
  · exact fun t t' h => hfiled (.of_extends (FileTree.makeDirectories_extends h))
  · exact fun path hpath content t t' h => hfiled (.write hpath h)
  · exact fun t t' h => hfiled (.remove .document h)

theorem restore_about (backup : Option String) {c : Connection}
    (hc : AddressOf profile db.name c.url) :
    Within (about (σ := σ) around s profile .restore db) (restore s db backup c) := by
  refine restore_within backup (fun t t' => ⟨fun _ h => absurd rfl h, nofun⟩) (rows_allowed hc) ?_
  exact fun row => send_allowed hc (namesOnly_batch row _ _)

/-- Every step of an action is about the database of the definition. -/
theorem act_within (around : Surroundings) {server : String}
    (hserver : s.server server = .ok profile) (action : Action) (db : Database)
    (backup : Option String) :
    Within (about (σ := σ) around s profile action db)
      (act around s server db backup action) := by
  cases action with
  | create => exact create_within hserver
  | drop => exact drop_within hserver
  | backup => exact onLiveTables_within hserver fun c hc => backUp_about hc
  | restore => exact onLiveTables_within hserver fun c hc => restore_about backup hc
  | report => exact onLiveTables_within hserver fun c hc => report_within (rows_allowed hc)
  | check => exact onLiveTables_within hserver fun c hc => check_within (rows_allowed hc)

/-! ## Runs -/

variable (around s profile action db)

/-- How the database is restored if no backup is named. -/
abbrev latestRestoration (d : Dialect) : RestorePlan :=
  ⟨db, Path.ofText s.repository, none, d, Plural.ofName, none⟩

/-- What is done is about the database: the events are, the files that a backup writes bear its name
and the day, and so does the archive that is restored if none is named. -/
structure About (w w' : Workspace (Network σ)) : Prop where
  events : Emitted (Concerns profile db.name) w.remote w'.remote
  files : Filed around s action db w.files w'.files
  found : ∀ d path, (latestRestoration s db d).source w.files = .ok path →
    ∃ day : Calendar.Date, day.isValid = true
      ∧ path = (Path.ofText s.repository).child (archiveName db.name day)

/-- What becomes of a database whose turn it is: there is no definition under its name, or what is
done is about the database of the definition. -/
inductive Turned (name : String) (w w' : Workspace (Network σ)) : Prop
  | undefined : (∀ db, ¬ Defines w.files (definitionAt s name) db) → OnlyTold w w' →
      Turned name w w'
  | about {db : Database} : Defines w.files (definitionAt s name) db →
      About around s profile action db w w' → Turned name w w'

/-- The turns of databases, one after another, until there are no more. -/
inductive Turns : List String → Workspace (Network σ) → Workspace (Network σ) → Prop
  | over {names : List String} {w w' : Workspace (Network σ)} : OnlyTold w w' → Turns names w w'
  | next {name : String} {names : List String} {w w₁ w' : Workspace (Network σ)} :
      Turned around s profile action name w w₁ → Turns names w₁ w' → Turns (name :: names) w w'

variable {around s profile action db}

omit [Server σ] in
/-- What the user is told before and after is no matter. -/
theorem About.of_onlyTold {w w₁ w₂ w' : Workspace (Network σ)} (h : OnlyTold w w₁)
    (hfiles : Filed around s action db w₁.files w₂.files)
    (hevents : Emitted (Concerns profile db.name) w₁.remote w₂.remote) (h' : OnlyTold w₂ w') :
    About around s profile action db w w' := by
  rw [h.files, ← h'.files] at hfiles
  rw [h.remote, ← h'.remote] at hevents
  refine ⟨hevents, hfiles, fun d path hsource => ?_⟩
  unfold RestorePlan.source at hsource
  dsimp only at hsource
  split at hsource
  · cases hsource
  · rename_i latest hlatest
    obtain rfl := Except.ok.inj hsource
    exact latestArchive?_named hlatest

theorem Acted.turned {server : String} {backup : Option String} {name : String}
    {outcome : Except Failure Bool} {w w' : Workspace (Network σ)}
    (hserver : s.server server = .ok profile)
    (h : Acted around s server action backup name w outcome w') :
    Turned around s profile action name w w' := by
  cases h with
  | undefined hnone htold => exact .undefined hnone htold
  | stopped hfault htold => exact .undefined (fun db => hfault.not_defines) htold
  | acted hdefines htold hact htold' =>
      rename_i db outcome w₁ w₂
      obtain ⟨hfiles, hevents⟩ := act_within around hserver action db backup w₁
      rw [hact] at hfiles hevents
      exact .about hdefines (.of_onlyTold htold hfiles hevents htold')

theorem Rounds.turns {server : String} {names : List String} {turns : List Turn}
    {w w₁ w' : Workspace (Network σ)} (hserver : s.server server = .ok profile)
    (h : Rounds around s server action w names turns w₁) (htold : OnlyTold w₁ w')
    (more : List String) : Turns around s profile action (names ++ more) w w' := by
  induction h with
  | finished w => exact .over htold
  | skipped hmissing htold' _ ih =>
      refine .next (.undefined (fun db hdefines => ?_) htold') (ih htold)
      obtain ⟨content, text, hread, -⟩ := hdefines
      obtain ⟨last, hplace, hnode⟩ := FileTree.read_eq_ok_iff.mp hread
      rw [FileTree.present_eq hplace, hnode] at hmissing
      cases hmissing
  | @attempted w _ _ name _ _ _ _ hact _ ih =>
      obtain ⟨_, _, hon, hacted⟩ := actOn_on around s server action none name w
      obtain ⟨rfl, rfl⟩ := Prod.mk.inj (hon.symm.trans hact)
      exact .next (hacted.turned hserver) (ih htold)

/-- The databases of a server are listed on a connection of its own. -/
def listed (s : Config.Settings) (server : String) : Job σ (Option (List String)) :=
  connect s server none >>= fun c => onConnection c (databasesOn c)

/-- That they are listed is about none of them. -/
theorem listed_within (around : Surroundings) {server : String}
    (hserver : s.server server = .ok profile) (name : String) :
    Within (about (σ := σ) around s profile .check ⟨name, []⟩) (listed s server) := by
  unfold listed
  refine connect_within hserver (.inl rfl) fun c hc => onConnection_within (close_allowed hc) ?_
  exact databasesOn_within (send_allowed hc (namesOnly_databases c.dialect))

/-- To act on all databases is to list them first. -/
theorem actOnAll_eq (around : Surroundings) (s : Config.Settings) (server : String)
    (action : Action) :
    actOnAll around s server action = (listed s server >>= fun answer =>
      match answer with
      | none => return 1
      | some names => do
        let failures ← actOnEach around s server action names
        if failures != 0 then
          say ("\n[yellow]" ++ action.name ++ " failed for " ++ Text.decimal failures ++ " of "
            ++ Text.decimal names.length ++ " databases[/yellow]")
        return exitCode (failures == 0) : Job σ Nat) := by
  unfold listed
  rw [bind_assoc]
  rfl

theorem actOnAll_turns {server : String} (hserver : s.server server = .ok profile)
    (w : Workspace (Network σ)) :
    ((listed s server).on w).2.files = w.files
      ∧ (∀ name, Emitted (Concerns profile name) w.remote ((listed s server).on w).2.remote)
      ∧ (OnlyTold ((listed s server).on w).2 ((actOnAll around s server action).on w).2
        ∨ ∃ names, ((listed s server).on w).1 = .ok (some names)
          ∧ Turns around s profile action names ((listed s server).on w).2
            ((actOnAll around s server action).on w).2) := by
  have hlisting (name : String) := listed_within around hserver name w
  rw [actOnAll_eq]
  cases hon : (listed s server).on w with
  | mk outcome w₁ =>
      rw [hon] at hlisting
      refine ⟨(hlisting "").1.kept (by decide) (by decide), fun name => (hlisting name).2, ?_⟩
      rcases outcome with e | _ | names
      · rw [on_bind_error hon]
        exact .inl (.refl w₁)
      · rw [on_bind_ok hon]
        exact .inl (.refl w₁)
      · obtain ⟨outcome, w₂, heach, hrounded⟩ := actOnEach_on around s server action names w₁
        rw [on_bind_ok hon]
        refine .inr ⟨names, rfl, ?_⟩
        cases hrounded with
        | through hrounds =>
            rename_i turns
            obtain ⟨w', htold, hconcluded⟩ := concluded_on action names (failures turns) w₂
            rw [on_bind_ok heach, hconcluded]
            simpa using hrounds.turns hserver htold []
        | stuck hnames hrounds _ _ htold =>
            rw [on_bind_error heach, hnames]
            exact hrounds.turns hserver htold _

/-- **An action is about the database that the definition names.** Whatever is configured and
whatever the server answers, the user is only told something if there is no configuration or no such
server. Otherwise the database whose name is given has its turn, or the databases of the server have
theirs once they are listed; and all that is done at the turn of a database is about the one that
the definition found under its name is of. -/
theorem carryOut_about (around : Surroundings) (action : Action) (config : Option String)
    (verbose : Bool) (server database : String) (backup : Option String)
    (w : Workspace (Network σ)) :
    let run := (carryOut around ⟨config, verbose, .act action server database backup⟩).on w
    (∀ s profile, ¬ Configured around w.files config server s profile) ∧ OnlyTold w run.2
    ∨ ∃ s profile, Configured around w.files config server s profile
      ∧ (Config.isAll database = false ∧ Turned around s profile action database w run.2
        ∨ Config.isAll database = true
          ∧ ((listed s server).on w).2.files = w.files
          ∧ (∀ name, Emitted (Concerns profile name) w.remote ((listed s server).on w).2.remote)
          ∧ (OnlyTold ((listed s server).on w).2 run.2
            ∨ ∃ names, ((listed s server).on w).1 = .ok (some names)
              ∧ Turns around s profile action names ((listed s server).on w).2 run.2)) := by
  intro run
  rcases carryOut_act_on around server action backup config verbose database w with
    ⟨s, profile, hconfigured, hbegun⟩ | ⟨hnone, outcome, w', hon, -, htold⟩
  · refine .inr ⟨s, profile, hconfigured, ?_⟩
    have hrun : run = (runAction around s server database action backup).on w := hbegun
    rw [hrun]
    unfold runAction
    cases hall : Config.isAll database with
    | true => exact .inr ⟨rfl, actOnAll_turns hconfigured.2 w⟩
    | false =>
        obtain ⟨outcome, w', hact, hacted⟩ := actOn_on around s server action backup database w
        have hturned := hacted.turned hconfigured.2
        rw [if_neg (by decide)]
        cases outcome with
        | error e =>
            rw [on_bind_error hact]
            exact .inl ⟨rfl, hturned⟩
        | ok done =>
            rw [on_bind_ok hact]
            exact .inl ⟨rfl, hturned⟩
  · have hrun : run = (outcome, w') := hon
    rw [hrun]
    exact .inl ⟨hnone, htold⟩

/-- The definition under the name of one database says the name of another one, which is dropped. -/
theorem carryOut_drops_other :
    let w := station (Text.Utf8.encode "DATABASE b\nTABLE t\nid INT\nEND\n")
    let run := (carryOut nowhere ⟨none, false, .act .drop "local" "a" none⟩).on w
    let url := "mysql+aiomysql://h/mysql"
    Config.isAll "a" = false ∧ run.1 = .ok 0
      ∧ run.2.remote.trace = [.opened 0 url, .sent 0 url .direct "DROP DATABASE b;", .closed 0 url]
      ∧ ∀ profile, ¬ Emitted (Concerns profile "a") w.remote run.2.remote := by
  intro w run url
  have hall : Config.isAll "a" = false := by decide +kernel
  obtain ⟨hcode, htrace⟩ : run.1 = .ok 0 ∧ run.2.remote.trace
      = [.opened 0 url, .sent 0 url .direct "DROP DATABASE b;", .closed 0 url] := by
    decide +kernel
  refine ⟨hall, hcode, htrace, ?_⟩
  rintro profile ⟨events, hevents, hconcerns⟩
  have hsent : Event.sent 0 url .direct "DROP DATABASE b;" ∈ events := by
    have hempty : w.remote.trace = [] := rfl
    rw [hempty, List.nil_append, htrace] at hevents
    rw [← hevents]
    exact List.mem_cons_of_mem _ (List.mem_cons_self ..)
  have hnames := (hconcerns _ hsent).statement _ rfl "DROP DATABASE" (by decide) (by decide +kernel)
  exact absurd hnames (by decide +kernel)

end Command

end Tablekeep
