import Tablekeep.Command.Program
import Tablekeep.Proofs.Repository.Reported

/-!
# An action on one database

The definition of a database is looked for in the repository before anything is done. If it is no
good the user is told so, and that is all; only where the file is no text, reading it is an error
that is not told but spreads. What goes wrong later, in the action itself, is always told. So an
action on one database ends with a verdict, or there is a file that is no text, and then nothing
has happened.
-/

namespace Tablekeep

open Files

/-- The user may have been told something; all else is as it was. -/
structure OnlyTold {ρ : Type} (s s' : Workspace ρ) : Prop where
  files : s'.files = s.files
  remote : s'.remote = s.remote

theorem OnlyTold.refl {ρ : Type} (s : Workspace ρ) : OnlyTold s s :=
  ⟨rfl, rfl⟩

theorem OnlyTold.trans {ρ : Type} {s s₁ s₂ : Workspace ρ} (h : OnlyTold s s₁)
    (h' : OnlyTold s₁ s₂) : OnlyTold s s₂ :=
  ⟨h'.files.trans h.files, h'.remote.trans h.remote⟩

/-- Whatever the user is told, all else is as it was. -/
theorem OnlyTold.entry {ρ : Type} (s : Workspace ρ) (e : Entry) :
    OnlyTold s { s with journal := s.journal ++ [e] } :=
  ⟨rfl, rfl⟩

/-! ## Definitions in files -/

namespace Repository

/-- The file at the path describes the database. -/
def Defines (t : FileTree) (path : Path) (db : Database) : Prop :=
  ∃ content text, t.read path = .ok content ∧ Text.Utf8.decode content.toBytes = .ok text
    ∧ Database.ofText path.name text = .ok db

/-- The bytes of the file at the path are no text. -/
def NotText (t : FileTree) (path : Path) (fault : Text.Utf8.Fault) : Prop :=
  ∃ content, t.read path = .ok content ∧ Text.Utf8.decode content.toBytes = .error fault

theorem NotText.not_defines {t : FileTree} {path : Path} {fault : Text.Utf8.Fault} {db : Database}
    (h : NotText t path fault) : ¬ Defines t path db := by
  rintro ⟨content, text, hread, hdecode, -⟩
  obtain ⟨content', hread', hfault⟩ := h
  obtain rfl := Except.ok.inj (hread.symm.trans hread')
  cases hdecode.symm.trans hfault

/-- What loading a definition comes to. -/
inductive Loaded (t : FileTree) (path : Path) :
    Except RepositoryError (Except DefinitionError Database) → Prop
  | good {db : Database} : Defines t path db → Loaded t path (.ok (.ok db))
  | bad {e : DefinitionError} : (∀ db, ¬ Defines t path db) → Loaded t path (.ok (.error e))
  | notText {fault : Text.Utf8.Fault} : NotText t path fault →
      Loaded t path (.error (.notText fault))

theorem read_of_isFile {t : FileTree} {path : Path} (h : t.isFile path = true) :
    ∃ content, t.read path = .ok content := by
  unfold FileTree.isFile FileTree.node? at h
  unfold FileTree.read
  split at h
  · rename_i content hnode
    split at hnode
    · cases hnode
    · rw [hnode]
      exact ⟨content, rfl⟩
  · cases h

theorem isFile_of_read {t : FileTree} {path : Path} {content : Content}
    (h : t.read path = .ok content) : t.isFile path = true := by
  unfold FileTree.read at h
  unfold FileTree.isFile FileTree.node?
  split at h
  · cases h
  · split at h
    · cases h
    · cases h
    · rename_i hnode
      rw [hnode]

variable {ρ : Type}

theorem loadDefinition_on (path : Path) (s : Workspace ρ) :
    ∃ outcome s', (loadDefinition path).on s = (outcome, s')
      ∧ Loaded s.files path outcome ∧ OnlyTold s s' := by
  unfold loadDefinition
  rw [Work.on_bind_ok Work.on_files]
  by_cases hfile : s.files.isFile path = true
  · obtain ⟨content, hread⟩ := read_of_isFile hfile
    rw [if_neg (by simp [hfile]), Work.on_bind_ok Work.on_files,
      Work.on_bind_ok (Work.on_ofExcept_ok hread)]
    cases hdecode : Text.Utf8.decode content.toBytes with
    | error fault =>
        -- unlike other faults this one is not recorded as one of the definition
        refine ⟨_, s, Work.on_bind_error (Work.on_ofExcept_error rfl), ?_, .refl s⟩
        exact .notText ⟨content, hread, hdecode⟩
    | ok text =>
        rw [Work.on_bind_ok (Work.on_ofExcept_ok rfl)]
        refine ⟨_, _, readDefinition_on path.name text s, ?_, ⟨rfl, rfl⟩⟩
        cases hparse : Database.ofText path.name text with
        | ok db => exact .good ⟨content, text, hread, hdecode, hparse⟩
        | error e =>
            refine .bad fun db hdefines => ?_
            obtain ⟨content', text', hread', hdecode', hparse'⟩ := hdefines
            obtain rfl := Except.ok.inj (hread.symm.trans hread')
            obtain rfl := Except.ok.inj (hdecode.symm.trans hdecode')
            cases hparse.symm.trans hparse'
  · rw [if_pos (by simpa using hfile)]
    refine ⟨_, _, Work.on_attempt (records_refuse _ s), .bad fun db hdefines => ?_, ⟨rfl, rfl⟩⟩
    obtain ⟨content, -, hread, -⟩ := hdefines
    exact hfile (isFile_of_read hread)

end Repository

/-! ## Verdicts -/

namespace Command

open Server Repository

variable {σ α : Type}

theorem say_on (text : String) (s : Workspace (Network σ)) :
    (say text : Job σ Unit).on s = (.ok (), { s with journal := s.journal ++ [.line text] }) :=
  Work.on_tell _

theorem orExplain_on_ok {w : Job σ α} {next : α → Job σ Nat} {a : α} {v v' : Workspace (Network σ)}
    (h : w.on v = (.ok a, v')) : (orExplain w next).on v = (next a).on v' := by
  unfold orExplain
  rw [Work.on_bind_ok (Work.on_attempt h)]

theorem orExplain_on_error {w : Job σ α} {next : α → Job σ Nat} {e : Failure}
    {v v' : Workspace (Network σ)} (h : w.on v = (.error e, v')) :
    ∃ outcome v'', (orExplain w next).on v = (outcome, v'') ∧ outcome ≠ .ok 0
      ∧ OnlyTold v' v'' := by
  unfold orExplain
  rw [Work.on_bind_ok (Work.on_attempt h)]
  dsimp only
  split
  · rw [Work.on_bind_ok (say_on _ v')]
    exact ⟨_, _, rfl, by simp, .entry v' _⟩
  · exact ⟨_, v', rfl, by simp, .refl v'⟩

/-- A connection is opened where the server is and has an address. -/
theorem connect_on {s : Config.Settings} {server url : String} {profile : Config.Profile}
    {database : Option String} {A : Addressing} (hserver : s.server server = .ok profile)
    (haddress : profile.databaseUrl database A = .ok url) (w : Workspace (Network σ)) :
    ∃ w₁, OnlyTold w w₁ ∧ (connect s server database A).on w
      = (Work.ask (Connection.connect (withDriver url) profile.dialect) : Job σ _).on w₁ := by
  unfold connect serverNamed
  rw [Work.on_bind_ok (Work.on_ofExcept_ok hserver), Work.on_bind_ok (Work.on_ofExcept_ok haddress),
    Work.on_bind_ok (Work.on_log _ _)]
  exact ⟨_, .entry w _, rfl⟩

/-- The path of the definition of a database. -/
abbrev definitionAt (s : Config.Settings) (name : String) : Path :=
  definitionPath (Path.ofText s.repository) name

/-- What looking for a definition comes to. -/
inductive Found (t : FileTree) (path : Path) : Except Failure (Option Database) → Prop
  | good {db : Database} : Defines t path db → Found t path (.ok (some db))
  | bad : (∀ db, ¬ Defines t path db) → Found t path (.ok none)
  | notText {fault : Text.Utf8.Fault} : NotText t path fault →
      Found t path (.error (.repository (.notText fault)))

theorem definitionFor_on (s : Config.Settings) (action : Action) (name : String)
    (w : Workspace (Network σ)) :
    ∃ outcome w', (definitionFor s action name).on w = (outcome, w')
      ∧ Found w.files (definitionAt s name) outcome ∧ OnlyTold w w' := by
  obtain ⟨loaded, w₁, hload, hloaded, htold⟩ := loadDefinition_on (definitionAt s name) w
  have hrename := Work.on_rename (f := Failure.repository) hload
  unfold definitionFor
  dsimp only
  cases hloaded with
  | good hdefines =>
      rw [Work.on_bind_ok hrename]
      exact ⟨_, w₁, rfl, .good hdefines, htold⟩
  | bad hnone =>
      rw [Work.on_bind_ok hrename]
      dsimp only
      rw [Work.on_bind_ok (say_on _ w₁)]
      exact ⟨_, _, rfl, .bad hnone, htold.trans (.entry w₁ _)⟩
  | notText hfault => exact ⟨_, w₁, Work.on_bind_error hrename, .notText hfault, htold⟩

/-- How an action is judged that has come to an outcome. -/
def verdict : Except Failure Bool → Bool
  | .ok done => done
  | .error _ => false

variable [Server σ] (around : Surroundings) (s : Config.Settings) (server : String)
  (action : Action) (backup : Option String) (name : String)

/-- How an action on the database with a name goes: there is no good definition, or the action is
done and judged, or the file with the definition is no text and the program stops. -/
inductive Acted (w : Workspace (Network σ)) : Except Failure Bool → Workspace (Network σ) → Prop
  | undefined {w' : Workspace (Network σ)} : (∀ db, ¬ Defines w.files (definitionAt s name) db) →
      OnlyTold w w' → Acted w (.ok false) w'
  | acted {db : Database} {outcome : Except Failure Bool} {w₁ w₂ w' : Workspace (Network σ)} :
      Defines w.files (definitionAt s name) db → OnlyTold w w₁ →
      (act around s server db backup action).on w₁ = (outcome, w₂) → OnlyTold w₂ w' →
      Acted w (.ok (verdict outcome)) w'
  | stopped {fault : Text.Utf8.Fault} {w' : Workspace (Network σ)} :
      NotText w.files (definitionAt s name) fault → OnlyTold w w' →
      Acted w (.error (.repository (.notText fault))) w'

theorem actOn_on (w : Workspace (Network σ)) :
    ∃ outcome w', (actOn around s server action backup name).on w = (outcome, w')
      ∧ Acted around s server action backup name w outcome w' := by
  obtain ⟨found, w₁, hfor, hfound, htold⟩ := definitionFor_on s action name w
  unfold actOn
  cases hfound with
  | notText hfault => exact ⟨_, w₁, Work.on_bind_error hfor, .stopped hfault htold⟩
  | bad hnone =>
      rw [Work.on_bind_ok hfor]
      exact ⟨_, w₁, rfl, .undefined hnone htold⟩
  | good hdefines =>
      rename_i db
      rw [Work.on_bind_ok hfor]
      dsimp only
      cases hact : (act around s server db backup action).on w₁ with
      | mk outcome w₂ =>
          rw [Work.on_bind_ok (Work.on_attempt hact)]
          cases outcome with
          | ok done => exact ⟨_, w₂, rfl, .acted hdefines htold hact (.refl w₂)⟩
          | error e =>
              dsimp only
              -- the failure is told here, and goes no further
              rw [Work.on_bind_ok (Work.on_log _ _), Work.on_bind_ok (say_on _ _)]
              exact ⟨_, _, rfl, .acted hdefines htold hact ⟨rfl, rfl⟩⟩

/-! ## Settings -/

/-- What the user asks for can be begun: there is a configuration, and it has the server. -/
def Configured (around : Surroundings) (t : FileTree) (config : Option String) (server : String)
    (s : Config.Settings) (profile : Config.Profile) : Prop :=
  Config.load around.environment t config = .ok s ∧ s.server server = .ok profile

/-- An action is begun with the configuration and the server that there are. If there are none
nothing happens, and the program does not end with the code for success. -/
theorem carryOut_act_on (config : Option String) (verbose : Bool) (database : String)
    (w : Workspace (Network σ)) :
    (∃ s profile, Configured around w.files config server s profile
      ∧ (carryOut around ⟨config, verbose, .act action server database backup⟩).on w
        = (runAction around s server database action backup).on w)
    ∨ (∀ s profile, ¬ Configured around w.files config server s profile)
      ∧ ∃ outcome w',
        (carryOut around ⟨config, verbose, .act action server database backup⟩).on w = (outcome, w')
          ∧ outcome ≠ .ok 0 ∧ OnlyTold w w' := by
  have hsettings : (settings around config : Job σ _).on w
      = ((Config.load around.environment w.files config).mapError .config, w) := by
    unfold settings
    rw [Work.on_bind_ok Work.on_files]
    cases Config.load around.environment w.files config with
    | ok s => rfl
    | error e => rfl
  cases hload : Config.load around.environment w.files config with
  | error e =>
      rw [hload] at hsettings
      refine .inr ⟨fun s profile h => ?_, ?_⟩
      · cases hload.symm.trans h.1
      · unfold carryOut
        exact orExplain_on_error (Work.on_bind_error hsettings)
  | ok s =>
      rw [hload] at hsettings
      cases hserver : s.server server with
      | error e =>
          refine .inr ⟨fun s' profile h => ?_, ?_⟩
          · obtain rfl := Except.ok.inj (hload.symm.trans h.1)
            cases hserver.symm.trans h.2
          · unfold carryOut
            refine orExplain_on_error (e := .server e) ((Work.on_bind_ok hsettings).trans ?_)
            refine Work.on_bind_error ?_
            unfold serverNamed
            rw [hserver]
            rfl
      | ok profile =>
          refine .inl ⟨s, profile, ⟨hload, hserver⟩, ?_⟩
          unfold carryOut
          refine orExplain_on_ok ((Work.on_bind_ok hsettings).trans ?_)
          unfold serverNamed
          rw [hserver]
          rfl

end Command

end Tablekeep
