import Tablekeep.Proofs.Command.Attempt
import Tablekeep.Proofs.Repository.Within

/-!
# Actions within bounds

Either there is no connection to be had, or one is opened: `connect_cases`. Whatever bounds there
are, what is done on it is within them if each thing that is asked on it is, and what is done
without a connection always is.
-/

namespace Tablekeep.Command

open Files Server Repository Work

variable {σ α : Type} {b : Bounds (Network σ)} {c : Connection}

/-! ## Connections -/

/-- The connection is the one that has been opened last, with nothing after that. -/
structure JustOpened (c : Connection) (n n' : Network σ) : Prop where
  number : c.number = n.opened
  opened : n'.opened = n.opened + 1
  trace : n'.trace = n.trace ++ [.opened c.number c.url]

/-- The address of a database of the server, as it is connected to. -/
def AddressIs (profile : Config.Profile) (database : Option String) (url : String) : Prop :=
  (profile.databaseUrl database).map withDriver = .ok url

/-- Either there is no address to connect to, and nothing happens, or a connection is opened. -/
theorem connect_cases (s : Config.Settings) (server : String) (database : Option String)
    (v : Workspace (Network σ)) :
    (∃ e, (connect s server database).on v = (.error e, v))
    ∨ ∃ profile c v₁, s.server server = .ok profile ∧ AddressIs profile database c.url
      ∧ (connect s server database).on v = (.ok c, v₁) ∧ v₁.files = v.files
      ∧ JustOpened c v.remote v₁.remote := by
  cases hserver : s.server server with
  | error e =>
      refine .inl ⟨.server e, ?_⟩
      unfold connect serverNamed
      exact on_bind_error (on_ofExcept_error hserver)
  | ok profile =>
      cases haddress : profile.databaseUrl database with
      | error e =>
          refine .inl ⟨.address e, ?_⟩
          unfold connect serverNamed
          rw [on_bind_ok (on_ofExcept_ok hserver)]
          exact on_bind_error (on_ofExcept_error haddress)
      | ok url =>
          obtain ⟨v₁, htold, hon⟩ := connect_on hserver haddress v
          rw [on_ask] at hon
          refine .inr ⟨profile, _, _, rfl, ?_, hon, htold.files, ?_⟩
          · rw [AddressIs, haddress]
            rfl
          · rw [← htold.remote]
            exact ⟨rfl, rfl, rfl⟩

theorem asked_within {x : StateM (Network σ) (Except ServerError α)} (hx : b.Allows x) :
    Within b (asked x) :=
  .bind (.ask hx) fun answer => .ofExcept _ answer

theorem onConnection_within {w : Job σ α} (hclose : b.Allows c.close) (hw : Within b w) :
    Within b (onConnection c w) :=
  .ensuring hw (.ask hclose)

/-! ## Files -/

theorem settings_within (around : Surroundings) (named : Option String) :
    Within b (settings around named) :=
  .bind .files fun _ => .ofExcept _ _

theorem loadDefinition_within (path : Path) :
    Within b (loadDefinition path : Work (Network σ) RepositoryError _) :=
  .untouched fun w => by
    obtain ⟨_, w', hon, -, htold⟩ := loadDefinition_on path w
    rw [hon]
    exact ⟨htold.files, htold.remote⟩

theorem definitionFor_within (s : Config.Settings) (action : Action) (name : String) :
    Within b (definitionFor s action name : Job σ _) := by
  unfold definitionFor
  refine .bind (.rename (loadDefinition_within _)) fun loaded => ?_
  split
  · exact .pure _
  · exact .bind (.tell _) fun _ => .pure _

theorem showScript_within (file dialect : String) :
    Within b (showScript file dialect : Job σ Nat) := by
  unfold showScript
  refine .bind (.rename (loadDefinition_within _)) fun loaded => ?_
  split
  · exact .bind (.tell _) fun _ => .pure _
  · split
    · exact .bind (.tell _) fun _ => .pure _
    · exact .bind (.tell _) fun _ => .pure _

theorem showServers_within (s : Config.Settings) : Within b (showServers s : Job σ Nat) :=
  .bind (.tell _) fun _ => .bind (.tell _) fun _ => .pure _

theorem orExplain_within {w : Job σ α} {next : α → Job σ Nat} (hw : Within b w)
    (hnext : ∀ a, Within b (next a)) : Within b (orExplain w next) := by
  unfold orExplain
  refine .bind (.attempt hw) fun outcome => ?_
  split
  · exact hnext _
  · exact .ite (.bind (.tell _) fun _ => .pure _) (.fail _)

theorem sayNames_within (names : List String) : Within b (sayNames names : Job σ Unit) := by
  induction names with
  | nil => exact .pure _
  | cons name names ih => exact .bind (.tell _) fun _ => ih

variable [Server σ]

/-! ## Asking -/

theorem databases_allowed (h : b.Allows (c.send .databases)) : b.Allows c.databases :=
  .bind h fun _ => .pure _

theorem tables_allowed (h : b.Allows (c.send .tables)) : b.Allows c.tables :=
  .bind h fun _ => .pure _

theorem hasContent_allowed (h : ∀ request, b.Allows (c.rows request)) (table : String) :
    b.Allows (c.hasContent table) :=
  .bind (h _) fun _ => .pure _

theorem tryAgain_within (hprobe : b.Allows c.probe)
    (hwait : ∀ seconds, b.Allows (record (.waited seconds))) (delay : Rat) (made left : Nat) :
    Within b (c.tryAgain delay made left) := by
  induction left generalizing made with
  | zero => exact .pure _
  | succ left ih =>
      unfold Connection.tryAgain
      refine .bind (.ask hprobe) fun answer => ?_
      split
      · exact .pure _
      · refine .ite (.bind ?_ fun _ => ih _) (.fail _)
        unfold pause
        exact .bind (.log _ _) fun _ => .ask (hwait _)

/-! ## Databases -/

theorem executeAll_within {texts : List String}
    (h : ∀ text ∈ texts, b.Allows (c.execute text)) : Within b (executeAll c texts) := by
  induction texts with
  | nil => exact .pure _
  | cons text texts ih =>
      obtain ⟨htext, hrest⟩ := List.forall_mem_cons.mp h
      unfold executeAll
      exact .bind (asked_within htext) fun _ => ih hrest

theorem createEmpty_within {name : String} (hlist : b.Allows (c.send .databases))
    (hcreate : b.Allows (c.execute ("CREATE DATABASE " ++ name))) :
    Within b (createEmpty c name) := by
  unfold createEmpty
  refine .bind (asked_within (databases_allowed hlist)) fun names => .ite ?_ ?_
  · exact .bind (.tell _) fun _ => .pure _
  · exact .bind (asked_within hcreate) fun _ => .pure _

theorem databasesOn_within (hlist : b.Allows (c.send .databases)) :
    Within b (databasesOn c) := by
  unfold databasesOn
  refine .bind (.ask (databases_allowed hlist)) fun answer => ?_
  split
  · exact .pure _
  · exact .bind (.tell _) fun _ => .pure _

/-! ## Live tables -/

variable {db : Database}

theorem tablesMatch_within (h : b.Allows (c.send .tables)) : Within b (tablesMatch db c) := by
  unfold tablesMatch
  refine .bind (asked_within (tables_allowed h)) fun live =>
    .ite (.bind (.tell _) fun _ => .pure _) ?_
  exact .ite (.bind (.tell _) fun _ => .pure _) (.pure _)

/-- Waiting for the server, and something that is done if the tables are those of the definition. -/
theorem onTables_within (d : Dialect) (hprobe : b.Allows c.probe)
    (hwait : ∀ seconds, b.Allows (record (.waited seconds)))
    (htables : b.Allows (c.send .tables)) {body : Job σ Bool} (hbody : Within b body) :
    Within b (do
      if d == .azure then
        Work.rename .connection (c.waitUntilAvailable usualAttempts usualDelay)
      if !(← tablesMatch db c) then return false
      body) := by
  have hmatched : Within b (do
      if !(← tablesMatch db c) then return false
      body) :=
    .bind (tablesMatch_within htables) fun fits => .ite (.pure _) hbody
  exact .ite (.bind (.rename (tryAgain_within hprobe hwait _ _ _)) fun _ => hmatched) hmatched

theorem backUp_within {around : Surroundings} {s : Config.Settings}
    (h : Within b ((⟨db, Path.ofText s.repository, around.today, true, Plural.ofName, none⟩ :
      BackupPlan).run c.client)) :
    Within b (backUp around s db c) := by
  unfold backUp
  exact .bind (.rename h) fun path => .bind (.tell _) fun _ => .pure _

theorem restore_within {s : Config.Settings} (backup : Option String)
    (hfiles : ∀ t t', b.files t t') (hrows : ∀ request, b.Allows (c.rows request))
    (hexecute : ∀ row : Backup.RowInsert, b.Allows (c.execute (row.batch c.dialect))) :
    Within b (restore s db backup c) := by
  unfold restore
  exact .bind (.rename (RestorePlan.run_within hfiles (hasContent_allowed hrows) hexecute))
    fun restored => .bind (.tell _) fun _ => .pure _

theorem report_within (hrows : ∀ request, b.Allows (c.rows request)) :
    Within b (report db c) := by
  unfold report
  refine .bind (.ask (Digest.report_allowed hrows db)) fun answer => ?_
  exact .bind (.ofExcept _ answer) fun reports => .bind (.tell _) fun _ => .pure _

theorem check_within (hrows : ∀ request, b.Allows (c.rows request)) :
    Within b (check db c) := by
  have hall (style : String) (texts : List String) :
      Within b (sayAll style texts : Job σ Unit) := by
    induction texts with
    | nil => exact .pure _
    | cons text texts ih => exact .bind (.tell _) fun _ => ih
  unfold check
  refine .bind (.tell _) fun _ => ?_
  refine .bind (asked_within (Check.database_allowed hrows db)) fun result => ?_
  exact .bind (hall _ _) fun _ => .bind (hall _ _) fun _ => .bind (hall _ _) fun _ => .pure _

end Tablekeep.Command
