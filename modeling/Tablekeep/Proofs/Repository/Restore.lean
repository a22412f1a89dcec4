import Mathlib.Algebra.BigOperators.Group.Finset.Basic
import Tablekeep.Proofs.Backup.Fit
import Tablekeep.Proofs.Repository.Latest
import Tablekeep.Proofs.Repository.Rows

/-!
# How a run ends

There are seven ways in which restoring ends, and `Ending` has a constructor for each, with what
the client was asked, the outcome, and the files. Which of them it is depends on the answers of
the client, and on what is to be restored: `chosen` is that as a function of the files.
-/

namespace Tablekeep.Repository

open Files Backup

variable {ρ : Type}

/-! ## Finding a backup -/

theorem latestArchive?_clean {t : FileTree} {repository path : Path} {database : String}
    (hrepository : repository.Clean) (h : latestArchive? t repository database = some path) :
    path.Clean := by
  obtain ⟨day, -, rfl⟩ := latestArchive?_named h
  exact hrepository.child _

namespace RestorePlan

variable (plan : RestorePlan) (client : Client ρ)

theorem source_clean {t : FileTree} {backup : Path} (hrepository : plan.repository.Clean)
    (h : plan.source t = .ok backup) : backup.Clean := by
  unfold source at h
  split at h
  · split at h
    · cases h
    · rename_i path hlatest
      obtain rfl := Except.ok.inj h
      exact latestArchive?_clean hrepository hlatest
  · rename_i text _
    have hnamed : (plan.named t text).Clean := by
      unfold named
      dsimp only
      split
      · exact Path.clean_ofText text
      · exact hrepository.append (Path.clean_ofText text)
    dsimp only at h
    split at h
    · cases h
    · split at h
      · cases h
      · obtain rfl := Except.ok.inj h
        exact hnamed

end RestorePlan

/-! ## Restoring a backup -/

/-- What is restored in a run. -/
structure Chosen where
  backup : Path
  /-- The document that is unpacked for the run. -/
  extracted : Option Path
  /-- What is read. -/
  bytes : List UInt8

/-- The files are as before, with some more directories at most. -/
structure Cleared (t t' : FileTree) (c : Chosen) : Prop where
  kept : t.Extends t'
  gone : ∀ document, c.extracted = some document → t'.present document = false

namespace RestorePlan

/-- What is restored from a backup, or why nothing is. -/
def chosenFrom (plan : RestorePlan) (t : FileTree) (backup : Path) :
    Except RepositoryError Chosen :=
  if Text.lower backup.suffix = archiveSuffix then
    (unpacking t backup plan.repository).map fun (document, bytes, _) =>
      ⟨backup, some document, bytes⟩
  else ((t.read backup).mapError .file).map fun content => ⟨backup, none, content.toBytes⟩

/-- What the run restores, or why it restores nothing. -/
def chosen (plan : RestorePlan) (t : FileTree) : Except RepositoryError Chosen :=
  match plan.source t with
  | .error e => .error e
  | .ok backup => plan.chosenFrom t backup

variable (plan : RestorePlan) (client : Client ρ)

theorem chosenFrom_backup {t : FileTree} {backup : Path} {c : Chosen}
    (h : plan.chosenFrom t backup = .ok c) : c.backup = backup := by
  unfold chosenFrom at h
  split at h
  · obtain ⟨found, -, rfl⟩ := Outcome.map_eq_ok_iff.mp h
    rfl
  · obtain ⟨content, -, rfl⟩ := Outcome.map_eq_ok_iff.mp h
    rfl

theorem restoreFrom_on_error {s : Workspace (ρ × Trace)} {backup : Path} {e : RepositoryError}
    (h : plan.chosenFrom s.files backup = .error e) :
    ∃ t, s.files.Extends t
      ∧ (plan.restoreFrom client.traced backup).on s = (.error e, { s with files := t }) := by
  unfold chosenFrom at h
  unfold restoreFrom
  by_cases hsuffix : Text.lower backup.suffix = archiveSuffix
  · rw [if_pos hsuffix] at h
    rw [if_pos hsuffix]
    cases hunpacking : unpacking s.files backup plan.repository with
    | ok found =>
        rw [hunpacking] at h
        cases h
    | error e' =>
        rw [hunpacking] at h
        obtain rfl := Except.error.inj h
        obtain ⟨t, hextends, hunpack⟩ := unpack_on_error (ρ := ρ × Trace) hunpacking
        exact ⟨t, hextends, Work.on_bind_error hunpack⟩
  · rw [if_neg hsuffix] at h
    rw [if_neg hsuffix]
    cases hread : s.files.read backup with
    | ok content =>
        rw [hread] at h
        cases h
    | error e' =>
        rw [hread] at h
        obtain rfl := Except.error.inj h
        exact ⟨s.files, .refl _, plan.readDocument_on_error client hread⟩

/-- What was chosen is restored, unless it went astray. -/
theorem restoreFrom_on {s : Workspace (ρ × Trace)} {backup : Path} {c : Chosen}
    (ht : s.files.Consistent) (hbackup : backup.Clean)
    (h : plan.chosenFrom s.files backup = .ok c) :
    (∃ s' statements outcome, (plan.restoreFrom client.traced backup).on s = (outcome, s')
      ∧ Restoring plan.dialect (plan.reader.read c.bytes) statements outcome
      ∧ Cleared s.files s'.files c
      ∧ s'.remote.2 = ⟨s.remote.2.asked, s.remote.2.executed ++ statements⟩)
    ∨ ∃ document t e,
      (plan.restoreFrom client.traced backup).on s = (.error (.file e), { s with files := t })
      ∧ c.extracted = some document ∧ ¬ s.files.StepsBack plan.repository
      ∧ placed s.files document.collapse c.bytes = .ok t := by
  unfold chosenFrom at h
  unfold restoreFrom
  by_cases hsuffix : Text.lower backup.suffix = archiveSuffix
  · rw [if_pos hsuffix] at h
    rw [if_pos hsuffix]
    obtain ⟨⟨document, bytes, t⟩, hunpacking, rfl⟩ := Outcome.map_eq_ok_iff.mp h
    rw [Work.on_bind_ok (unpack_on_ok hunpacking)]
    rcases unpacking_spec ht hbackup hunpacking with hunpacked | ⟨hplaced, hastray, hgone, e, hread⟩
    · -- the document is read as it was packed, and removed whatever came of it
      left
      obtain ⟨u, hremove, hkept, hgone⟩ := hunpacked.removed
      obtain ⟨s', statements, outcome, hread, hrestoring, hfiles, htrace⟩ :=
        plan.readDocument_on client (s := { s with files := t }) hunpacked.read
      have hdone := removeDocument_on (s := s') (by rw [hfiles]; exact hunpacked.present)
        (by rw [hfiles]; exact hremove)
      refine ⟨_, statements, outcome, Work.on_ensuring hread hdone, hrestoring, ?_, htrace⟩
      refine ⟨hkept, fun document' heq => ?_⟩
      obtain rfl := Option.some.inj heq
      exact hgone
    · -- the document is not found, neither to be read nor to be removed
      right
      refine ⟨document, t, e, ?_, rfl, hastray, hplaced⟩
      exact Work.on_ensuring (plan.readDocument_on_error client hread)
        (removeDocument_on_absent (s := { s with files := t }) hgone)
  · rw [if_neg hsuffix] at h
    rw [if_neg hsuffix]
    obtain ⟨content, hread, rfl⟩ := Outcome.map_eq_ok_iff.mp h
    obtain ⟨s', statements, outcome, hon, hrestoring, hfiles, htrace⟩ :=
      plan.readDocument_on client (Outcome.mapError_eq_ok_iff.mp hread)
    refine .inl ⟨s', statements, outcome, hon, hrestoring, ?_, htrace⟩
    rw [hfiles]
    exact ⟨.refl _, fun document heq => by cases heq⟩

end RestorePlan

/-! ## Counting rows -/

theorem eraseDups_of_nodup {names : List String} (h : names.Nodup) : names.eraseDups = names := by
  induction names with
  | nil => rfl
  | cons name names ih =>
      obtain ⟨hname, hnames⟩ := List.nodup_cons.mp h
      have hkept : (names.filter fun other => !other == name) = names := by
        refine List.filter_eq_self.mpr fun other hother => ?_
        have hne : other ≠ name := by
          rintro rfl
          exact hname hother
        simpa using hne
      rw [List.eraseDups_cons, hkept, ih hnames]

theorem names_nodup {db : Database} (h : db.Valid) : (db.tables.map (·.name)).Nodup := by
  refine List.pairwise_map.mpr (h.names.imp fun {t u} hne heq => ?_)
  rw [heq, Text.sameName_self] at hne
  cases hne

theorem tableNames_eq {db : Database} (h : db.Valid) :
    RestorePlan.tableNames db = db.tables.map (·.name) :=
  eraseDups_of_nodup (names_nodup h)

/-- Counts for different names add up to the number of rows, if each row has one of the names. -/
theorem total_eq {backup : Path} {names : List String} (hnames : names.Nodup)
    {rows : List RowInsert} (hrows : ∀ row ∈ rows, row.table ∈ names) :
    Restored.total ⟨backup, names.map fun name => (name, rows.countP fun row => row.table == name)⟩
      = rows.length := by
  have hsum : Restored.total
        ⟨backup, names.map fun name => (name, rows.countP fun row => row.table == name)⟩
      = (names.map fun name => (rows.map (·.table)).count name).sum := by
    rw [Restored.total, List.sum_eq_foldr, List.foldr_map, List.foldr_map]
    simp only [List.count_eq_countP, List.countP_map, Function.comp_def]
  rw [hsum, ← List.sum_toFinset _ hnames]
  have hcard := Multiset.sum_count_eq_card (s := names.toFinset)
    (m := (rows.map (·.table) : Multiset String)) (by simpa using hrows)
  simpa using hcard

/-! ## Runs -/

namespace RestorePlan

variable (plan : RestorePlan) (client : Client ρ)

theorem tellCounts_on (counts : List (String × Nat)) (s : Workspace ρ) :
    ∃ journal, (tellCounts counts : Work ρ RepositoryError Unit).on s
      = (.ok (), { s with journal := journal }) := by
  induction counts generalizing s with
  | nil => exact ⟨s.journal, rfl⟩
  | cons count counts ih =>
      unfold tellCounts
      rw [Work.on_bind_ok (Work.on_log _ _)]
      exact ih _

/-- The answers if no table has content. -/
def allEmpty (plan : RestorePlan) : List (String × Except ServerError Bool) :=
  plan.database.tables.map fun t => (t.name, .ok false)

/-- How a run ends that finds the files `t`: what the client was asked, the outcome, and the files
then. -/
inductive Ending (plan : RestorePlan) (t : FileTree) :
    Trace → Except RepositoryError Restored → FileTree → Prop
  /-- It is not known of a table whether it has content. -/
  | unanswered (known : List (Table × Bool)) {table : Table} {after : List Table}
      {e : ServerError} : plan.database.tables = known.map (·.1) ++ table :: after →
      Ending plan t ⟨answered known ++ [(table.name, .error e)], []⟩ (.error (.server e)) t
  /-- There are tables that have content. -/
  | notEmpty (known : List (Table × Bool)) : plan.database.tables = known.map (·.1) →
      (∃ k ∈ known, k.2 = true) →
      Ending plan t ⟨answered known, []⟩
        (.error (.tablesNotEmpty plan.database.name ((known.filter (·.2)).map (·.1.name)))) t
  /-- There is nothing to restore. -/
  | refused {e : RepositoryError} {t' : FileTree} : plan.chosen t = .error e → t.Extends t' →
      Ending plan t ⟨plan.allEmpty, []⟩ (.error e) t'
  /-- What was unpacked cannot be found. -/
  | astray {c : Chosen} {document : Path} {t' : FileTree} {e : FileError} :
      plan.chosen t = .ok c → c.extracted = some document → ¬ t.StepsBack plan.repository →
      placed t document.collapse c.bytes = .ok t' →
      Ending plan t ⟨plan.allEmpty, []⟩ (.error (.file e)) t'
  /-- A row is rejected. -/
  | rejected {c : Chosen} {t' : FileTree} {e : ServerError} (done : List RowInsert)
      {row : RowInsert} {after : List RowInsert} : plan.chosen t = .ok c →
      (plan.reader.read c.bytes).rows = done ++ row :: after → Cleared t t' c →
      Ending plan t
        ⟨plan.allEmpty, carriedOut plan.dialect done ++ [(row.batch plan.dialect, .error e)]⟩
        (.error (.server e)) t'
  /-- The document cannot be read to its end. -/
  | unreadable {c : Chosen} {t' : FileTree} {e : ReadError} : plan.chosen t = .ok c →
      (plan.reader.read c.bytes).failure = some e → Cleared t t' c →
      Ending plan t
        ⟨plan.allEmpty, carriedOut plan.dialect (plan.reader.read c.bytes).rows⟩
        (.error (.read e)) t'
  /-- All rows are inserted. -/
  | restored {c : Chosen} {t' : FileTree} {r : Restored} : plan.chosen t = .ok c →
      (plan.reader.read c.bytes).failure = none → Cleared t t' c →
      r.backup = c.backup →
      r.inserted = plan.database.tables.map (fun table =>
        (table.name, (plan.reader.read c.bytes).rows.countP fun row => row.table == table.name)) →
      r.total = (carriedOut plan.dialect (plan.reader.read c.bytes).rows).length →
      Ending plan t
        ⟨plan.allEmpty, carriedOut plan.dialect (plan.reader.read c.bytes).rows⟩ (.ok r) t'

/-- What the client is asked in a run. -/
def trace (plan : RestorePlan) (client : Client ρ) (s : Workspace ρ) : Trace :=
  ((plan.run client.traced).on ⟨s.files, s.journal, (s.remote, .empty)⟩).2.remote.2

theorem counts_eq {rows : List RowInsert} (hvalid : plan.database.Valid) :
    counts plan.database rows = plan.database.tables.map fun table =>
      (table.name, rows.countP fun row => row.table == table.name) := by
  rw [counts, tableNames_eq hvalid, List.map_map]
  rfl

theorem read_table_mem (bytes : List UInt8) :
    ∀ row ∈ (plan.reader.read bytes).rows, row.table ∈ plan.database.tables.map (·.name) := by
  intro row hrow
  unfold Reader.read at hrow
  split at hrow
  · simp [ReadResult.rows] at hrow
  · obtain ⟨t, ht, cells, hinsert⟩ := Reader.readEvents_restores row hrow
    rw [(rowInsert_columns hinsert).1]
    exact List.mem_map_of_mem ht

/-- The counts add up, as every row is of one of the tables. -/
theorem total_counts {backup : Path} {rows : List RowInsert} (hvalid : plan.database.Valid)
    (hrows : ∀ row ∈ rows, row.table ∈ plan.database.tables.map (·.name)) :
    Restored.total ⟨backup, counts plan.database rows⟩ = rows.length := by
  rw [counts, tableNames_eq hvalid]
  exact total_eq (names_nodup hvalid) hrows

/-- What is done when no table has content. -/
theorem restore_on {s : Workspace (ρ × Trace)} (hvalid : plan.database.Valid)
    (ht : s.files.Consistent) (hrepository : plan.repository.Clean)
    (hs : s.remote.2 = ⟨plan.allEmpty, []⟩) :
    ∃ s' outcome,
      (Work.ofExcept id (plan.source s.files) >>= fun backup =>
        Work.log .info ("Using " ++ backup.toText) >>= fun _ =>
        plan.restoreFrom client.traced backup >>= fun rows =>
        tellCounts (counts plan.database rows) >>= fun _ =>
        pure ⟨backup, counts plan.database rows⟩ :
          Work (ρ × Trace) RepositoryError Restored).on s = (outcome, s')
      ∧ plan.Ending s.files s'.remote.2 outcome s'.files := by
  cases hsource : plan.source s.files with
  | error e =>
      refine ⟨s, _, Work.on_bind_error (Work.on_ofExcept_error rfl), ?_⟩
      rw [hs]
      refine .refused ?_ (.refl _)
      rw [chosen, hsource]
      rfl
  | ok backup =>
      have hchosen : plan.chosen s.files = plan.chosenFrom s.files backup := by
        rw [chosen, hsource]
      rw [Work.on_bind_ok (Work.on_ofExcept_ok rfl), Work.on_bind_ok (Work.on_log _ _)]
      cases hfrom : plan.chosenFrom s.files backup with
      | error e =>
          obtain ⟨t, hextends, hon⟩ := plan.restoreFrom_on_error client
            (s := { s with journal := s.journal ++ [.record .info ("Using " ++ backup.toText)] })
            hfrom
          refine ⟨_, _, Work.on_bind_error hon, ?_⟩
          rw [hs]
          exact .refused (hchosen.trans hfrom) hextends
      | ok c =>
          have hran := plan.restoreFrom_on client
            (s := { s with journal := s.journal ++ [.record .info ("Using " ++ backup.toText)] })
            ht (plan.source_clean hrepository hsource) hfrom
          rcases hran with ⟨s', statements, outcome, hon, hrestoring, hcleared, htrace⟩ |
            ⟨document, t, e, hon, hextracted, hastray, hplaced⟩
          · rw [hs] at htrace
            cases hrestoring with
            | rejected done hrows =>
                refine ⟨s', _, Work.on_bind_error hon, ?_⟩
                rw [htrace]
                exact .rejected done (hchosen.trans hfrom) hrows hcleared
            | unreadable hfailure =>
                refine ⟨s', _, Work.on_bind_error hon, ?_⟩
                rw [htrace]
                exact .unreadable (hchosen.trans hfrom) hfailure hcleared
            | restored hfailure =>
                obtain ⟨journal, htell⟩ :=
                  tellCounts_on (counts plan.database (plan.reader.read c.bytes).rows) s'
                rw [Work.on_bind_ok hon, Work.on_bind_ok htell]
                refine ⟨_, _, rfl, ?_⟩
                rw [htrace]
                refine .restored (hchosen.trans hfrom) hfailure hcleared
                  (plan.chosenFrom_backup hfrom).symm (plan.counts_eq hvalid) ?_
                rw [carriedOut, List.length_map]
                exact plan.total_counts hvalid (plan.read_table_mem c.bytes)
          · refine ⟨_, _, Work.on_bind_error hon, ?_⟩
            rw [hs]
            exact .astray (hchosen.trans hfrom) hextracted hastray hplaced

theorem run_traced_on {s : Workspace (ρ × Trace)} (hvalid : plan.database.Valid)
    (ht : s.files.Consistent) (hrepository : plan.repository.Clean) (hs : s.remote.2 = .empty) :
    ∃ s' outcome, (plan.run client.traced).on s = (outcome, s')
      ∧ plan.Ending s.files s'.remote.2 outcome s'.files := by
  obtain ⟨s₁, answers, outcome, hask, hasking, hfiles₁, htrace₁⟩ :=
    nonEmpty_on client plan.database.tables s
  rw [hs] at htrace₁
  unfold run
  cases hasking with
  | unanswered known htables =>
      refine ⟨s₁, _, Work.on_bind_error hask, ?_⟩
      rw [htrace₁, hfiles₁]
      exact .unanswered known htables
  | answered known htables =>
      rw [Work.on_bind_ok hask]
      by_cases hfull : ∃ k ∈ known, k.2 = true
      · have hnames : (!((known.filter (·.2)).map (·.1.name)).isEmpty) = true := by
          simpa using hfull
        rw [if_pos hnames]
        refine ⟨s₁, _, Work.on_bind_error (Work.on_fail _), ?_⟩
        rw [htrace₁, hfiles₁]
        exact .notEmpty known htables hfull
      · have hnames : ¬ (!((known.filter (·.2)).map (·.1.name)).isEmpty) = true := by
          simpa using hfull
        rw [if_neg hnames, Work.on_bind_ok Work.on_files, hfiles₁]
        have hempty : answered known = plan.allEmpty := by
          rw [allEmpty, htables, List.map_map]
          refine List.map_congr_left fun k hk => ?_
          have hnot : k.2 = false := by simpa using fun htrue => hfull ⟨k, hk, htrue⟩
          simp [hnot]
        rw [hempty] at htrace₁
        rw [← hfiles₁] at ht ⊢
        exact plan.restore_on client hvalid ht hrepository htrace₁

/-- **What a run does**, whatever the client answers and whatever there is to restore. -/
theorem run_ends (s : Workspace ρ) (hvalid : plan.database.Valid) (ht : s.files.Consistent)
    (hrepository : ∃ text, plan.repository = Path.ofText text) :
    plan.Ending s.files (plan.trace client s) ((plan.run client).on s).1
      ((plan.run client).on s).2.files := by
  obtain ⟨text, htext⟩ := hrepository
  have hclean : plan.repository.Clean := htext ▸ Path.clean_ofText text
  obtain ⟨s', outcome, hon, hending⟩ := plan.run_traced_on client
    (s := ⟨s.files, s.journal, (s.remote, .empty)⟩) hvalid ht hclean rfl
  have hrun : (plan.run client).on s = (outcome, s'.untraced) := by
    have hwatched := plan.run_watches client ⟨s.files, s.journal, (s.remote, .empty)⟩
    rw [hon] at hwatched
    exact hwatched
  rw [trace, hrun, hon]
  exact hending

/-! ### A shelf -/

/-- A document of the shelf with a pen. -/
def shelfDocument : String :=
  "<shop><items><item><id>7</id><name>pen</name></item></items></shop>"

/-- A directory with an archive of the shelf, and what there is besides. -/
def shelfFiles (more : List (Place × Node)) : FileTree :=
  ⟨[(["b"], .directory),
    (["b", "x.zip"], .file (.archive [("x.xml", Text.Utf8.encode shelfDocument)]))] ++ more, []⟩

/-- The plan to restore the shelf from the archive into a repository. -/
def shelfPlan (repository : String) : RestorePlan :=
  ⟨.shelf, Path.ofText repository, some "b/x.zip", .mysql, Plural.ofName, none⟩

/-- A client of a database without rows, in which every statement is carried out. -/
def willing : Client Unit :=
  ⟨fun _ => pure (.ok []), fun _ => pure (.ok false), fun _ => pure (.ok ())⟩

theorem run_ends_shelf :
    let plan := shelfPlan "b"
    let s : Workspace Unit := ⟨shelfFiles [], [], ()⟩
    plan.database.Valid ∧ s.files.Consistent ∧ (∃ text, plan.repository = Path.ofText text)
      ∧ ((plan.run willing).on s).1 = .ok ⟨Path.ofText "b/x.zip", [("item", 1)]⟩
      ∧ plan.Ending s.files (plan.trace willing s) ((plan.run willing).on s).1
        ((plan.run willing).on s).2.files := by
  intro plan s
  have hvalid : plan.database.Valid := by decide
  have hconsistent : s.files.Consistent := by decide +kernel
  refine ⟨hvalid, hconsistent, ⟨"b", rfl⟩, by decide +kernel, ?_⟩
  exact plan.run_ends willing s hvalid hconsistent ⟨"b", rfl⟩

/-- A document is unpacked over a file, which is lost, and stays there. -/
theorem run_astray :
    let plan := shelfPlan "a/../b"
    let old : Node := .file (.bytes (Text.Utf8.encode "old"))
    let s : Workspace Unit := ⟨shelfFiles [(["b", "x.xml"], old)], [], ()⟩
    plan.database.Valid ∧ s.files.Consistent ∧ (∃ text, plan.repository = Path.ofText text)
      ∧ ((unpack (Path.ofText "b/x.zip") plan.repository).on s).1
        = .ok (Path.ofText "a/../b/x.xml")
      ∧ s.files.nodeAt? ["b", "x.xml"] = some old
      ∧ ((plan.run willing).on s).2.files.nodeAt? ["b", "x.xml"]
        = some (.file (.bytes (Text.Utf8.encode shelfDocument))) := by
  refine ⟨by decide, by decide +kernel, ⟨"a/../b", rfl⟩, by decide +kernel, by decide +kernel, ?_⟩
  decide +kernel

end RestorePlan

end Tablekeep.Repository
