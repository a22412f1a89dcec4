import Tablekeep.Proofs.Command.Named
import Tablekeep.Proofs.Server.Sessions

/-!
# Connections are closed

The program has one connection at a time. Whatever is done on it, and wherever that fails, the
connection is closed before anything else is done, and before another one is opened. So a run is a
sequence of sessions, whatever the command line is, and the files, and whatever the servers answer.

There are two bounds behind this. What is done on a connection is `onlyOn` it, and opens no other;
closed off, it is one session, and a run is `orderly` because it is put together of sessions.
-/

namespace Tablekeep.Command

open Files Server Repository Work

variable {σ α β : Type}

/-! ## Bounds -/

/-- Nothing passes but on the connection. Files may change. -/
def onlyOn (c : Connection) : Bounds (Network σ) where
  files _ _ := True
  remote n n' := n'.opened = n.opened ∧ Emitted (Event.Uses c.number c.url) n n'
  files_refl _ := trivial
  files_trans _ _ := trivial
  remote_refl n := ⟨rfl, .refl n⟩
  remote_trans h h' := ⟨h'.1.trans h.1, h.2.trans h'.2⟩

/-- What passes are sessions. Files may change. -/
def orderly : Bounds (Network σ) where
  files _ _ := True
  remote n n' := ∃ urls, Visits urls n n'
  files_refl _ := trivial
  files_trans _ _ := trivial
  remote_refl n := ⟨[], .none n⟩
  remote_trans h h' := by
    obtain ⟨urls, hvisits⟩ := h
    obtain ⟨urls', hvisits'⟩ := h'
    exact ⟨urls ++ urls', hvisits.trans hvisits'⟩

/-! ## A session -/

variable {c : Connection} {s : Config.Settings} {server : String}
  {profile : Config.Profile} {database : Option String}

/-- **What is done on a connection is a session**, wherever it fails. -/
theorem onConnection_visits {w : Job σ α} (hw : Within (onlyOn c) w) {n : Network σ}
    {v : Workspace (Network σ)} (h : JustOpened c n v.remote) :
    Visits [c.url] n ((onConnection c w).on v).2.remote := by
  obtain ⟨-, hopened, uses, htrace, huses⟩ := hw v
  obtain ⟨outcome, v₁, hon⟩ : ∃ outcome v₁, w.on v = (outcome, v₁) := ⟨_, _, rfl⟩
  rw [hon] at hopened htrace
  rw [onConnection, on_ensuring hon (on_ask c.close)]
  refine ⟨.opened c.number c.url :: (uses ++ [.closed c.number c.url]), ?_, ?_, ?_⟩
  · change v₁.remote.trace ++ [.closed c.number c.url] = _
    rw [htrace, h.trace, List.append_assoc, List.append_assoc]
    rfl
  · exact hopened.trans h.opened
  · rw [h.number] at huses ⊢
    exact .one huses

/-- A session may be followed by others. -/
theorem onConnection_bind_visits {w : Job σ α} (hw : Within (onlyOn c) w) {rest : α → Job σ β}
    (hrest : ∀ a, Within orderly (rest a)) {n : Network σ} {v : Workspace (Network σ)}
    (h : JustOpened c n v.remote) :
    ∃ urls, Visits urls n ((onConnection c w >>= rest).on v).2.remote := by
  have hvisits := onConnection_visits hw h
  obtain ⟨outcome, v₁, hon⟩ : ∃ outcome v₁, (onConnection c w).on v = (outcome, v₁) := ⟨_, _, rfl⟩
  rw [hon] at hvisits
  cases outcome with
  | error e =>
      rw [on_bind_error hon]
      exact ⟨_, hvisits⟩
  | ok a =>
      rw [on_bind_ok hon]
      obtain ⟨-, urls, hvisits'⟩ := hrest a v₁
      exact ⟨_, hvisits.trans hvisits'⟩

/-- Something that is done on a connection of its own. -/
def session (s : Config.Settings) (server : String) (database : Option String)
    (f : Connection → Job σ α) : Job σ α :=
  connect s server database >>= fun c => onConnection c (f c)

/-- Something may be done after a session with what came of it. -/
theorem session_bind (s : Config.Settings) (server : String) (database : Option String)
    (f : Connection → Job σ α) (rest : α → Job σ β) :
    (connect s server database >>= fun c => onConnection c (f c) >>= rest)
      = session s server database f >>= rest := by
  rw [session, bind_assoc]

theorem session_cases {f : Connection → Job σ α} (hf : ∀ c, Within (onlyOn c) (f c))
    (s : Config.Settings) (server : String) (database : Option String)
    (v : Workspace (Network σ)) :
    (∃ e, (session s server database f).on v = (.error e, v))
    ∨ ∃ profile url, s.server server = .ok profile ∧ AddressIs profile database url
      ∧ Visits [url] v.remote ((session s server database f).on v).2.remote := by
  unfold session
  rcases connect_cases s server database v with
    ⟨e, hon⟩ | ⟨profile, c, v₁, hserver, hurl, hon, -, hopens⟩
  · exact .inl ⟨e, on_bind_error hon⟩
  · refine .inr ⟨profile, c.url, hserver, hurl, ?_⟩
    rw [on_bind_ok hon]
    exact onConnection_visits (hf c) hopens

theorem session_within {f : Connection → Job σ α} (hf : ∀ c, Within (onlyOn c) (f c)) :
    Within orderly (session s server database f) := by
  intro v
  refine ⟨trivial, ?_⟩
  rcases session_cases hf s server database v with ⟨e, hon⟩ | ⟨_, url, -, -, hvisits⟩
  · rw [hon]
    exact ⟨[], .none v.remote⟩
  · exact ⟨[url], hvisits⟩

/-! ### Places -/

/-- Connections are opened to databases in this order, but not to all of them if something goes
wrong. -/
def VisitsSome (profile : Config.Profile) (databases : List (Option String))
    (n n' : Network σ) : Prop :=
  ∃ visited urls, visited <+: databases ∧ List.Forall₂ (AddressIs profile) visited urls
    ∧ Visits urls n n'

theorem VisitsSome.none (databases : List (Option String)) (n : Network σ) :
    VisitsSome profile databases n n :=
  ⟨[], [], List.nil_prefix, .nil, .none n⟩

theorem VisitsSome.cons {databases : List (Option String)} {n n' n'' : Network σ} {url : String}
    (haddress : AddressIs profile database url) (h : Visits [url] n n')
    (h' : VisitsSome profile databases n' n'') :
    VisitsSome profile (database :: databases) n n'' := by
  obtain ⟨visited, urls, hprefix, haddresses, hvisits⟩ := h'
  exact ⟨database :: visited, url :: urls, List.cons_prefix_cons.mpr ⟨rfl, hprefix⟩,
    .cons haddress haddresses, h.trans hvisits⟩

/-- A session, and what follows on it if it does not fail. -/
theorem session_visits (hserver : s.server server = .ok profile) {f : Connection → Job σ α}
    (hf : ∀ c, Within (onlyOn c) (f c)) {rest : α → Job σ β}
    {databases : List (Option String)}
    (hrest : ∀ a v, VisitsSome profile databases v.remote ((rest a).on v).2.remote)
    (v : Workspace (Network σ)) :
    VisitsSome profile (database :: databases) v.remote
      ((session s server database f >>= rest).on v).2.remote := by
  rcases session_cases hf s server database v with
    ⟨e, hon⟩ | ⟨profile', url, hserver', hurl, hvisits⟩
  · rw [on_bind_error hon]
    exact .none _ _
  · obtain rfl := Except.ok.inj (hserver.symm.trans hserver')
    obtain ⟨outcome, v₁, hon⟩ : ∃ outcome v₁,
      (session s server database f).on v = (outcome, v₁) := ⟨_, _, rfl⟩
    rw [hon] at hvisits
    cases outcome with
    | error e =>
        rw [on_bind_error hon]
        exact .cons hurl hvisits (.none _ _)
    | ok a =>
        rw [on_bind_ok hon]
        exact .cons hurl hvisits (hrest a v₁)

/-! ## On a connection -/

section Servers

variable [Server σ]

theorem send_onlyOn (c : Connection) (st : Statement α) :
    (onlyOn (σ := σ) c).Allows (c.send st) := by
  intro n
  rw [send_run]
  rcases Server.accept n.server c.url with ⟨_ | text, server⟩
  · exact ⟨rfl, .one rfl (.sent _ _)⟩
  · exact ⟨rfl, .one rfl (.refused text)⟩

theorem script_onlyOn (d : Dialect) (db : Database) (c : Connection) :
    Within (onlyOn (σ := σ) c)
      (Work.ofExcept Failure.script (db.statements d) >>= executeAll c) :=
  .bind (.ofExcept _ _) fun _ => executeAll_within fun _ _ => send_onlyOn c _

theorem backUp_onlyOn (around : Surroundings) (s : Config.Settings) (db : Database)
    (c : Connection) : Within (onlyOn (σ := σ) c) (backUp around s db c) :=
  backUp_within (BackupPlan.run_within (fun _ => send_onlyOn c _) (fun _ _ _ => trivial)
    (fun _ _ _ _ _ _ => trivial) fun _ _ _ => trivial)

theorem restore_onlyOn (s : Config.Settings) (db : Database) (backup : Option String)
    (c : Connection) : Within (onlyOn (σ := σ) c) (restore s db backup c) :=
  restore_within backup (fun _ _ => trivial) (fun _ => send_onlyOn c _) fun _ => send_onlyOn c _

/-! ## Actions -/

/-- The databases that connections are opened to when one is created: first to the one that every
server has, where databases can be created, and then to the new one. -/
def creationPlaces : Dialect → String → List (Option String)
  | .mysql, name => [none, some name]
  | .azure, name => [some name]

theorem create_visits (hserver : s.server server = .ok profile) (db : Database)
    (v : Workspace (Network σ)) :
    VisitsSome profile (creationPlaces profile.dialect db.name) v.remote
      ((create s server db).on v).2.remote := by
  have htables (v : Workspace (Network σ)) :
      VisitsSome profile [some db.name] v.remote
        ((session s server (some db.name) (fun c =>
          Work.ofExcept Failure.script (db.statements profile.dialect) >>= executeAll c)
          >>= fun _ => do
            say ("[bold green]v[/bold green] Created database [cyan]" ++ db.name ++ "[/cyan] with "
              ++ Text.decimal db.tables.length ++ " tables")
            return true).on v).2.remote :=
    session_visits hserver (script_onlyOn _ db) (fun _ v => .none _ v.remote) v
  unfold create serverNamed
  rw [on_bind_ok (on_ofExcept_ok hserver)]
  simp only [session_bind]
  unfold provide
  cases hd : profile.dialect with
  | azure =>
      rw [hd] at htables
      exact htables v
  | mysql =>
      rw [hd] at htables
      have hempty (c : Connection) : Within (onlyOn (σ := σ) c) (createEmpty c db.name) :=
        createEmpty_within (send_onlyOn c _) (send_onlyOn c _)
      refine session_visits hserver hempty (fun ready v => ?_) v
      cases ready with
      | false => exact .none _ _
      | true => exact htables v

theorem create_orderly (s : Config.Settings) (server : String) (db : Database) :
    Within (orderly (σ := σ)) (create s server db) := by
  intro v
  refine ⟨trivial, ?_⟩
  cases hserver : s.server server with
  | error e =>
      have hfails : (create s server db : Job σ Bool).on v = (.error (.server e), v) :=
        on_bind_error (on_ofExcept_error hserver)
      rw [hfails]
      exact ⟨[], .none v.remote⟩
  | ok profile =>
      obtain ⟨-, urls, -, -, hvisits⟩ := create_visits hserver db v
      exact ⟨urls, hvisits⟩

theorem drop_orderly (s : Config.Settings) (server : String) (db : Database) :
    Within (orderly (σ := σ)) (drop s server db) := by
  unfold drop
  simp only [session_bind]
  refine .bind (.ofExcept _ _) fun profile => .ite (.bind (.tell _) fun _ => .pure _) ?_
  refine .bind (session_within fun c => asked_within (send_onlyOn c _)) fun _ => ?_
  exact .bind (.tell _) fun _ => .pure _

theorem onLiveTables_orderly (s : Config.Settings) (server : String) (db : Database)
    {body : Connection → Job σ Bool} (hbody : ∀ c, Within (onlyOn c) (body c)) :
    Within orderly (onLiveTables s server db body) := by
  have hwait (c : Connection) (seconds : Rat) :
      (onlyOn (σ := σ) c).Allows (record (.waited seconds)) :=
    fun _ => ⟨rfl, .one rfl (.waited seconds)⟩
  refine .bind (.ofExcept _ _) fun profile => session_within fun c => ?_
  exact onTables_within _ (send_onlyOn c _) (hwait c) (send_onlyOn c _) (hbody c)

theorem act_orderly (around : Surroundings) (s : Config.Settings) (server : String)
    (db : Database) (backup : Option String) (action : Action) :
    Within (orderly (σ := σ)) (act around s server db backup action) := by
  cases action with
  | create => exact create_orderly s server db
  | drop => exact drop_orderly s server db
  | backup => exact onLiveTables_orderly s server db (backUp_onlyOn around s db)
  | restore => exact onLiveTables_orderly s server db (restore_onlyOn s db backup)
  | report =>
      exact onLiveTables_orderly s server db fun c => report_within fun _ => send_onlyOn c _
  | check =>
      exact onLiveTables_orderly s server db fun c => check_within fun _ => send_onlyOn c _

theorem actOn_orderly (around : Surroundings) (s : Config.Settings) (server : String)
    (action : Action) (backup : Option String) (name : String) :
    Within (orderly (σ := σ)) (actOn around s server action backup name) := by
  unfold actOn
  refine .bind (definitionFor_within s action name) fun found => ?_
  split
  · exact .pure _
  · refine .bind (.attempt (act_orderly around s server _ backup action)) fun outcome => ?_
    split
    · exact .pure _
    · exact .bind (.log _ _) fun _ => .bind (.tell _) fun _ => .pure _

/-! ## Runs -/

theorem actOnEach_orderly (around : Surroundings) (s : Config.Settings) (server : String)
    (action : Action) (names : List String) :
    Within (orderly (σ := σ)) (actOnEach around s server action names) := by
  induction names with
  | nil => exact .pure _
  | cons name names ih =>
      unfold actOnEach
      refine .bind .files fun t => .ite (.bind (.tell _) fun _ => ih) ?_
      exact .bind (actOn_orderly around s server action none name) fun done =>
        .bind ih fun failures => .pure _

theorem listed_orderly (s : Config.Settings) (server : String) :
    Within (orderly (σ := σ)) (listed s server) :=
  session_within fun c => databasesOn_within (send_onlyOn c _)

theorem runAction_orderly (around : Surroundings) (s : Config.Settings)
    (server database : String) (action : Action) (backup : Option String) :
    Within (orderly (σ := σ)) (runAction around s server database action backup) := by
  unfold runAction
  refine .ite ?_ (.bind (actOn_orderly around s server action backup database) fun _ => .pure _)
  rw [actOnAll_eq]
  refine .bind (listed_orderly s server) fun answer => ?_
  split
  · exact .pure _
  · refine .bind (actOnEach_orderly around s server action _) fun failures => ?_
    exact .ite (.bind (.tell _) fun _ => .pure _) (.pure _)

/-- To show the databases of a server, what fails before there is a connection is told apart from
what fails on it. -/
theorem showDatabases_orderly (around : Surroundings) (config : Option String) (server : String) :
    Within (orderly (σ := σ)) (orExplain (do connect (← settings around config) server none)
      showDatabases) := by
  intro v
  refine ⟨trivial, ?_⟩
  obtain ⟨found, v₁, hsettings⟩ : ∃ found v₁,
    (settings around config : Job σ _).on v = (found, v₁) := ⟨_, _, rfl⟩
  have hsilent := Within.remote_eq (settings_within around config) hsettings
  -- up to here nothing has passed, and it is told
  have hfailed {e : Failure}
      (h : (do connect (← settings around config) server none : Job σ _).on v = (.error e, v₁)) :
      ∃ urls, Visits urls v.remote ((orExplain (do connect (← settings around config) server none)
        showDatabases).on v).2.remote := by
    have hexplained : ∃ outcome v', (orExplain (do connect (← settings around config) server none)
        showDatabases).on v = (outcome, v') ∧ outcome ≠ .ok 0 ∧ OnlyTold v₁ v' :=
      orExplain_on_error h
    obtain ⟨_, v', hon, -, htold⟩ := hexplained
    rw [hon, htold.remote, hsilent]
    exact ⟨[], .none v.remote⟩
  cases found with
  | error e => exact hfailed (on_bind_error hsettings)
  | ok s =>
      have hbegun {opened : Except Failure Connection} {v₂ : Workspace (Network σ)}
          (h : (connect s server none).on v₁ = (opened, v₂)) :
          (do connect (← settings around config) server none : Job σ _).on v = (opened, v₂) :=
        (on_bind_ok hsettings).trans h
      rcases connect_cases s server none v₁ with
        ⟨e, hconnect⟩ | ⟨_, c, v₂, -, -, hconnect, -, hopens⟩
      · exact hfailed (hbegun hconnect)
      · rw [orExplain_on_ok (hbegun hconnect), ← hsilent]
        refine onConnection_bind_visits (databasesOn_within (send_onlyOn c _)) (fun answer => ?_)
          hopens
        split
        · exact .pure _
        · exact .bind (sayNames_within _) fun _ => .pure _

theorem carryOut_orderly (around : Surroundings) (i : Invocation) :
    Within (orderly (σ := σ)) (carryOut around i) := by
  unfold carryOut
  split
  · exact showScript_within _ _
  · exact orExplain_within (settings_within around i.config) showServers_within
  · exact showDatabases_orderly around i.config _
  · rename_i action server database backup _
    refine orExplain_within (.bind (settings_within around i.config) fun s => ?_) fun s =>
      runAction_orderly around s server database action backup
    have hnamed : Within (orderly (σ := σ)) (discard (serverNamed s server)) :=
      .untouched fun v => by
        unfold serverNamed
        cases s.server server <;> exact ⟨rfl, rfl⟩
    exact .bind hnamed fun _ => .pure _

/--
**Every connection that is opened is closed.**

Let the command line be any, and the files, and the state of the server, which may refuse clients
and reject statements as it likes. What passes in the run are sessions: every connection is opened,
used and closed, in this order, and nothing passes on it after that; and before a connection is
opened, all those that were opened earlier have been closed. Creating a database opens at most two
connections, the first to the database that every server has and the second to the new one; where
databases cannot be created, it opens at most the second.
-/
theorem run_concluded (around : Surroundings) (args : List String) (w : Workspace (Network σ)) :
    (∃ urls events, ((run around args).on w).2.remote.trace = w.remote.trace ++ events
      ∧ ((run around args).on w).2.remote.opened = w.remote.opened + urls.length
      ∧ Sessions w.remote.opened urls events ∧ Concluded events)
    ∧ ∀ (s : Config.Settings) (server : String) (profile : Config.Profile) (db : Database)
        (v : Workspace (Network σ)), s.server server = .ok profile →
      VisitsSome profile (creationPlaces profile.dialect db.name) v.remote
        ((create s server db).on v).2.remote := by
  have horderly : Within (orderly (σ := σ)) (run around args) := by
    unfold run
    split
    · exact .pure _
    · exact carryOut_orderly around _
  obtain ⟨-, urls, events, htrace, hopened, hsessions⟩ := horderly w
  exact ⟨⟨urls, events, htrace, hopened, hsessions, hsessions.concluded⟩,
    fun s server profile db v hserver => create_visits hserver db v⟩

end Servers

/-- A database is created on a server that can have databases created, in two sessions. -/
theorem run_concluded_create :
    let w := station (Text.Utf8.encode "DATABASE d\nTABLE t\nid INT\nEND\n")
    let profile : Config.Profile := ⟨"mysql://h", "mysql", "", none⟩
    let url := "mysql+aiomysql://h/mysql"
    let url' := "mysql+aiomysql://h/d"
    ((run nowhere ["create", "local", "a"]).on w).1 = .ok 0
      ∧ ((run nowhere ["create", "local", "a"]).on w).2.remote.trace
        = [.opened 0 url, .sent 0 url .query "SHOW DATABASES",
          .sent 0 url .direct "CREATE DATABASE d;", .closed 0 url, .opened 1 url',
          .sent 1 url' .direct "DROP TABLE IF EXISTS t;",
          .sent 1 url' .direct "CREATE TABLE t (\nid INT NULL);", .closed 1 url']
      ∧ (∃ urls events, ((run nowhere ["create", "local", "a"]).on w).2.remote.trace
          = w.remote.trace ++ events
        ∧ ((run nowhere ["create", "local", "a"]).on w).2.remote.opened
          = w.remote.opened + urls.length
        ∧ Sessions w.remote.opened urls events ∧ Concluded events)
      ∧ stationSettings.server "local" = .ok profile
      ∧ VisitsSome profile (creationPlaces .mysql "d") w.remote
        ((create stationSettings "local" ⟨"d", []⟩).on w).2.remote := by
  intro w profile url url'
  have hserver : stationSettings.server "local" = .ok profile := by decide +kernel
  have hdialect : profile.dialect = .mysql := by decide +kernel
  have hread : Invocation.ofArguments ["create", "local", "a"]
      = .ok ⟨none, false, .act .create "local" "a" none⟩ := by decide +kernel
  obtain ⟨hconcluded, hcreate⟩ := run_concluded nowhere ["create", "local", "a"] w
  have hcreated := hcreate stationSettings "local" profile ⟨"d", []⟩ w hserver
  rw [hdialect] at hcreated
  refine ⟨?_, ?_, hconcluded, hserver, hcreated⟩
  · rw [run, hread]
    decide +kernel
  · rw [run, hread]
    decide +kernel

end Tablekeep.Command
