import Tablekeep.Proofs.Repository.Making
import Tablekeep.Proofs.Repository.Restore

/-!
# What was backed up is restored

A backup of the latest day is what a restoration finds that is told of no other: the archive that
the backup made is the latest one, the document in it is the one that was written, and unpacking and
removing it leaves the files as the backup left them.

What the backup leaves is `Shelved`: a directory in which the archive lies, with the document as its
one member, and the document does not. All that a restoration does to files follows from this.
-/

namespace Tablekeep.Repository

open Files Backup Calendar

variable {ρ : Type}

theorem isSuffix_document : Path.IsSuffix documentSuffix :=
  ⟨['x', 'm', 'l'], rfl, by decide, by decide⟩

theorem isSuffix_archive : Path.IsSuffix archiveSuffix :=
  ⟨['z', 'i', 'p'], rfl, by decide, by decide⟩

namespace BackupPlan

/-! ## Names of the day -/

/-- The name of the database is one without slashes, and the year of the day has four digits. -/
structure Named (plan : BackupPlan) : Prop where
  slash : '/' ∉ plan.database.name.toList
  valid : plan.today.isValid = true
  year : 1000 ≤ plan.today.year

/-- What the document and the archive of the day are both called. -/
def stem (plan : BackupPlan) : String :=
  plan.database.name ++ "-" ++ plan.today.toText

/-- The path of the archive of the day. -/
def archivePath (plan : BackupPlan) : Path :=
  plan.repository.child (archiveName plan.database.name plan.today)

variable {plan : BackupPlan}

theorem stem_ne_empty (plan : BackupPlan) : plan.stem ≠ "" := by
  intro h
  have hlength := congrArg String.length h
  simp only [stem, String.length_append] at hlength
  exact absurd hlength (by simp)

/-- The document bears its name in the repository, -/
theorem Named.document (h : plan.Named) : plan.document
    = { plan.repository with names := plan.repository.names ++ [plan.stem ++ documentSuffix] } := by
  rw [BackupPlan.document, documentName, toStamp_eq_toText h.valid h.year]
  exact Path.child_of_isName _ (isName_dated h.slash h.valid (by decide)).1

/-- and so does the archive. -/
theorem Named.archivePath (h : plan.Named) : plan.archivePath
    = { plan.repository with names := plan.repository.names ++ [plan.stem ++ archiveSuffix] } :=
  Path.child_of_isName _ (isName_dated h.slash h.valid (by decide)).1

theorem Named.suffix_archivePath (h : plan.Named) :
    Text.lower plan.archivePath.suffix = archiveSuffix := by
  rw [h.archivePath, Path.suffix_snoc _ plan.stem_ne_empty isSuffix_archive]
  decide +kernel

theorem Named.document_ne_dots (h : plan.Named) : plan.stem ++ documentSuffix ≠ ".." :=
  (isName_dated h.slash h.valid (by decide)).2

theorem Named.archive_ne_dots (h : plan.Named) : plan.stem ++ archiveSuffix ≠ ".." :=
  (isName_dated h.slash h.valid (by decide)).2

theorem document_ne_archive (plan : BackupPlan) :
    plan.stem ++ documentSuffix ≠ plan.stem ++ archiveSuffix := by
  intro h
  have hsuffix : documentSuffix.toList = archiveSuffix.toList := by
    have hlists := congrArg String.toList h
    rw [String.toList_append, String.toList_append] at hlists
    exact List.append_cancel_left hlists
  exact absurd hsuffix (by decide)

/-! ## What a backup leaves -/

/-- The archive of the day lies in a directory, with the document in it; the document itself does
not. -/
structure Shelved (plan : BackupPlan) (bytes : List UInt8) (t : FileTree) (place : Place) :
    Prop where
  repository : t.place plan.repository = .ok place
  directory : t.nodeAt? place = some .directory
  archive : t.nodeAt? (place ++ [plan.stem ++ archiveSuffix])
    = some (.file (.archive [(plan.stem ++ documentSuffix, bytes)]))
  document : t.nodeAt? (place ++ [plan.stem ++ documentSuffix]) = none

/-- What packing leaves of a document that was written. -/
theorem shelved_of_packing {u t : FileTree} {place : Place} {bytes : List UInt8} {path : Path}
    (hplan : plan.Named) (hplace : u.place plan.repository = .ok place)
    (hdirectory : u.nodeAt? place = some .directory)
    (hfree : u.nodeAt? (place ++ [plan.stem ++ documentSuffix]) ≠ some .directory)
    (h : Packing plan.document
      (u.put (place ++ [plan.stem ++ documentSuffix]) (.file (.bytes bytes))) (.ok path) t) :
    path = plan.archivePath ∧ u.SameDirectories t ∧ plan.Shelved bytes t place
      ∧ ∀ other, other ≠ place ++ [plan.stem ++ archiveSuffix] →
        other ≠ place ++ [plan.stem ++ documentSuffix] → t.nodeAt? other = u.nodeAt? other := by
  have hwritten := FileTree.SameDirectories.put hfree (.bytes bytes)
  cases h with
  | packed hsuffix harchive hunoccupied hlast hcontent =>
      rename_i archived last content
      rw [hplan.document, Path.withSuffix?_snoc _ plan.stem_ne_empty isSuffix_document,
        ← hplan.archivePath] at hsuffix
      obtain rfl := Option.some.inj hsuffix
      -- both names lie in one directory
      rw [hwritten.place_eq_ok_iff, hplan.archivePath,
        FileTree.place_snoc_eq_ok_iff hplan.archive_ne_dots] at harchive
      obtain ⟨_, hplace', -, rfl⟩ := harchive
      obtain rfl := Except.ok.inj (hplace.symm.trans hplace')
      rw [hwritten.place_eq_ok_iff, hplan.document,
        FileTree.place_snoc_eq_ok_iff hplan.document_ne_dots] at hlast
      obtain ⟨_, hplace'', -, rfl⟩ := hlast
      obtain rfl := Except.ok.inj (hplace.symm.trans hplace'')
      have hne : place ++ [plan.stem ++ documentSuffix] ≠ place ++ [plan.stem ++ archiveSuffix] :=
        fun heq => plan.document_ne_archive (by simpa using heq)
      have hdocument := FileTree.ne_nil_of_nodeAt? hfree
      have harchive := FileTree.ne_nil_of_nodeAt? hunoccupied
      rw [FileTree.nodeAt?_put harchive, if_neg hne, FileTree.nodeAt?_put hdocument,
        if_pos rfl] at hcontent
      obtain rfl := Node.file.inj (Option.some.inj hcontent)
      rw [hplan.document, Path.name_snoc]
      have hpacked := hwritten.trans (.put hunoccupied
        (.archive [(plan.stem ++ documentSuffix, bytes)]))
      have hsame := hpacked.trans (.drop fun h => hfree ((hpacked.directory _).mp h))
      have hnodes := FileTree.nodeAt?_drop_put_put (t := u) hdocument harchive
        (.file (.bytes bytes)) (.file (.archive [(plan.stem ++ documentSuffix, bytes)]))
      refine ⟨rfl, hsame, ⟨hsame.place_eq_ok_iff.mpr hplace, (hsame.directory place).mpr hdirectory,
        ?_, ?_⟩, fun other harchived hdocumented => ?_⟩
      · rw [Content.toBytes, hnodes, if_neg (Ne.symm hne), if_pos rfl]
      · rw [Content.toBytes, hnodes, if_pos rfl]
      · rw [Content.toBytes, hnodes, if_neg hdocumented, if_neg harchived]

/-- What a run leaves that packs the document. -/
theorem Made.shelved {written : Written (SourceError ServerError)} {t t' : FileTree} {path : Path}
    (hplan : plan.Named) (harchive : plan.archive = true)
    (h : plan.Made written t (.ok path) t') :
    path = plan.archivePath ∧ written.failure = none
      ∧ ∃ u place, t.makeDirectories plan.repository = .ok u ∧ u.SameDirectories t'
        ∧ plan.Shelved (Text.Utf8.encode (documentText written.lines)) t' place
        ∧ ∀ other, other ≠ place ++ [plan.stem ++ archiveSuffix] →
          other ≠ place ++ [plan.stem ++ documentSuffix] →
          t'.nodeAt? other = u.nodeAt? other := by
  cases h with
  | documented _ hunpacked => cases harchive.symm.trans hunpacked
  | packed hmake _ hdocumented hpacking =>
      cases hdocumented with
      | written hdocument hfree hfailure =>
          rw [hplan.document, FileTree.place_snoc_eq_ok_iff hplan.document_ne_dots] at hdocument
          obtain ⟨place, hplace, hdirectory, rfl⟩ := hdocument
          obtain ⟨hpath, hsame, hshelved, hothers⟩ :=
            shelved_of_packing hplan hplace hdirectory hfree hpacking
          exact ⟨hpath, hfailure, _, place, hmake, hsame, hshelved, hothers⟩

/-! ## What is found again -/

namespace Shelved

variable {bytes : List UInt8} {t : FileTree} {place : Place}

theorem place_archive (hplan : plan.Named) (h : plan.Shelved bytes t place) :
    t.place plan.archivePath = .ok (place ++ [plan.stem ++ archiveSuffix]) := by
  rw [hplan.archivePath, FileTree.place_snoc_eq_ok_iff hplan.archive_ne_dots]
  exact ⟨place, h.repository, h.directory, rfl⟩

theorem place_document (hplan : plan.Named) (h : plan.Shelved bytes t place) :
    t.place plan.document = .ok (place ++ [plan.stem ++ documentSuffix]) := by
  rw [hplan.document, FileTree.place_snoc_eq_ok_iff hplan.document_ne_dots]
  exact ⟨place, h.repository, h.directory, rfl⟩

theorem isFile_archive (hplan : plan.Named) (h : plan.Shelved bytes t place) :
    t.isFile plan.archivePath = true :=
  FileTree.isFile_iff.mpr ⟨_, _, h.place_archive hplan, h.archive⟩

theorem document_absent (hplan : plan.Named) (h : plan.Shelved bytes t place) :
    t.present plan.document = false := by
  rw [FileTree.present_eq (h.place_document hplan), h.document]
  rfl

/-- If there is none of a later day, the archive is the latest. -/
theorem latest (hplan : plan.Named) (h : plan.Shelved bytes t place)
    (hlater : ∀ day, day.isValid = true → plan.today.number < day.number →
      t.isFile (plan.repository.child (archiveName plan.database.name day)) = false) :
    latestArchive? t plan.repository plan.database.name = some plan.archivePath := by
  refine (latestArchive?_eq_some_iff hplan.slash).mpr
    ⟨plan.today, hplan.valid, rfl, h.isFile_archive hplan, fun day hvalid hfile => ?_⟩
  refine Nat.le_of_not_lt fun hlt => ?_
  cases hfile.symm.trans (hlater day hvalid hlt)

/-- The document is unpacked where it was written. -/
theorem unpacking (hplan : plan.Named) (h : plan.Shelved bytes t place) :
    unpacking t plan.archivePath plan.repository = .ok (plan.document, bytes,
      t.put (place ++ [plan.stem ++ documentSuffix]) (.file (.bytes bytes))) := by
  refine unpacking_eq_ok_iff.mpr ⟨?_, ?_⟩
  · have hname : Path.IsName (plan.stem ++ documentSuffix) :=
      (isName_dated hplan.slash hplan.valid (by decide)).1
    have htarget : plan.repository.child (plan.stem ++ documentSuffix) = plan.document :=
      (Path.child_of_isName plan.repository hname).trans hplan.document.symm
    have hsuffix : plan.archivePath.withSuffix? documentSuffix = some plan.document := by
      rw [hplan.archivePath, Path.withSuffix?_snoc _ plan.stem_ne_empty isSuffix_archive,
        hplan.document]
    have hread := FileTree.read_eq_ok_iff.mpr ⟨_, h.place_archive hplan, h.archive⟩
    have hdocument : plan.document.name = plan.stem ++ documentSuffix := by
      rw [hplan.document, Path.name_snoc]
    unfold packedDocument
    rw [if_neg (by simp [h.isFile_archive hplan]), hsuffix]
    dsimp only
    rw [hdocument, htarget, if_neg (by simp [h.document_absent hplan]), hread]
    simp [Content.members?, member?]
  · -- the document leads where it leads collapsed, and there is nothing on the way to be made
    have hdocument := h.place_document hplan
    have hcollapse := FileTree.place_collapse (FileTree.stepsBack_of_place hdocument)
    have hrepository := FileTree.place_collapse (FileTree.stepsBack_of_place h.repository)
    have hparent : plan.document.collapse.parent = plan.repository.collapse := by
      rw [hplan.document, Path.collapse_snoc _ hplan.document_ne_dots, Path.parent]
      dsimp only
      rw [List.dropLast_concat]
    refine Outcome.bind_eq_ok_iff.mpr ⟨t, ?_, ?_⟩
    · rw [prepared, hparent, if_pos]
      rw [FileTree.present_eq (hrepository.trans h.repository), h.directory]
      rfl
    · refine FileTree.write_eq_ok_iff.mpr ⟨_, hcollapse.trans hdocument, ?_, rfl⟩
      simp [h.document]

end Shelved

/-! ## What is restored -/

/-- The restoration is one of the same database from the same repository, and no backup is named. -/
structure Recovers (other : RestorePlan) (plan : BackupPlan) : Prop where
  database : other.database = plan.database
  repository : other.repository = plan.repository
  unnamed : other.backup = none

variable {bytes : List UInt8} {place : Place} {other : RestorePlan} (client : Client ρ)

/-- What was backed up is read, and the files are left as they were. -/
theorem Shelved.restoreFrom_on {s : Workspace (ρ × Trace)} (hplan : plan.Named)
    (hother : Recovers other plan) (h : plan.Shelved bytes s.files place) :
    ∃ s' statements outcome,
      (other.restoreFrom client.traced plan.archivePath).on s = (outcome, s')
      ∧ Restoring other.dialect (other.reader.read bytes) statements outcome
      ∧ s'.files = s.files
      ∧ s'.remote.2 = ⟨s.remote.2.asked, s.remote.2.executed ++ statements⟩ := by
  have hunpacking := h.unpacking hplan
  rw [← hother.repository] at hunpacking
  have hfree : s.files.nodeAt? (place ++ [plan.stem ++ documentSuffix]) ≠ some .directory := by
    simp [h.document]
  -- while the document lies there it is read, and then it is removed whatever came of it
  generalize ht : s.files.put (place ++ [plan.stem ++ documentSuffix]) (.file (.bytes bytes)) = t
    at hunpacking
  have hplace : t.place plan.document = .ok (place ++ [plan.stem ++ documentSuffix]) := by
    rw [← ht, (FileTree.SameDirectories.put hfree (.bytes bytes)).place_eq_ok_iff]
    exact h.place_document hplan
  have hnode :
      t.nodeAt? (place ++ [plan.stem ++ documentSuffix]) = some (.file (.bytes bytes)) := by
    rw [← ht, FileTree.nodeAt?_put (FileTree.ne_nil_of_nodeAt? hfree), if_pos rfl]
  obtain ⟨s', statements, outcome, hread, hrestoring, hfiles, htrace⟩ :=
    other.readDocument_on client (s := { s with files := t })
      (FileTree.read_eq_ok_iff.mpr ⟨_, hplace, hnode⟩)
  have hremove : s'.files.remove plan.document = .ok s.files := by
    refine FileTree.remove_eq_ok_iff.mpr
      ⟨place ++ [plan.stem ++ documentSuffix], .bytes bytes, ?_, ?_, ?_⟩
    · rw [hfiles]
      exact hplace
    · rw [hfiles]
      exact hnode
    · rw [hfiles, ← ht, FileTree.drop_put, FileTree.drop_eq_self h.document]
  have hpresent : s'.files.present plan.document = true := by
    rw [hfiles, FileTree.present_eq hplace, hnode]
    rfl
  unfold RestorePlan.restoreFrom
  rw [if_pos hplan.suffix_archivePath, Work.on_bind_ok (unpack_on_ok hunpacking)]
  have hon := Work.on_ensuring hread (RestorePlan.removeDocument_on hpresent hremove)
  exact ⟨_, statements, outcome, hon, hrestoring, rfl, htrace⟩

/-- So it is in a run that is told of no backup, if the tables are empty and the archive is the one
that is found. -/
theorem Shelved.run_traced_on {s : Workspace (ρ × Trace)} (hplan : plan.Named)
    (hother : Recovers other plan) (h : plan.Shelved bytes s.files place)
    (hsource : other.source s.files = .ok plan.archivePath)
    (hempty : ((RestorePlan.nonEmpty client.traced other.database.tables).on s).1 = .ok []) :
    ∃ s' statements outcome,
      (other.run client.traced).on s = (outcome.map fun rows =>
        ⟨plan.archivePath, RestorePlan.counts other.database rows⟩, s')
      ∧ Restoring other.dialect (other.reader.read bytes) statements outcome
      ∧ s'.files = s.files ∧ s'.remote.2.executed = s.remote.2.executed ++ statements := by
  obtain ⟨s₁, answers, answer, hask, -, hfiles₁, htrace₁⟩ :=
    RestorePlan.nonEmpty_on client other.database.tables s
  rw [hask] at hempty
  obtain rfl : answer = .ok [] := hempty
  obtain ⟨s₂, statements, outcome, hfrom, hrestoring, hfiles₂, htrace₂⟩ :=
    Shelved.restoreFrom_on client hplan hother (s := { s₁ with
      journal := s₁.journal ++ [.record .info ("Using " ++ plan.archivePath.toText)] })
      (by rw [hfiles₁]; exact h)
  rw [htrace₁] at htrace₂
  rw [← hfiles₁] at hsource ⊢
  unfold RestorePlan.run
  rw [Work.on_bind_ok hask, if_neg (by simp), Work.on_bind_ok Work.on_files,
    Work.on_bind_ok (Work.on_ofExcept_ok hsource), Work.on_bind_ok (Work.on_log _ _)]
  cases outcome with
  | error e =>
      refine ⟨s₂, statements, _, Work.on_bind_error hfrom, hrestoring, hfiles₂, ?_⟩
      rw [htrace₂]
  | ok rows =>
      obtain ⟨journal, htell⟩ :=
        RestorePlan.tellCounts_on (RestorePlan.counts other.database rows) s₂
      rw [Work.on_bind_ok hfrom, Work.on_bind_ok htell]
      refine ⟨{ s₂ with journal := journal }, statements, _, rfl, hrestoring, hfiles₂, ?_⟩
      rw [htrace₂]

/-- What was backed up is restored: it is chosen, its rows are inserted until one is rejected or
there are no more, and the files are left as they were. -/
structure Recovered (plan : BackupPlan) (bytes : List UInt8) (other : RestorePlan)
    (client : Client ρ) (s : Workspace ρ) : Prop where
  chosen : other.chosen s.files = .ok ⟨plan.archivePath, some plan.document, bytes⟩
  restored : ∃ outcome,
    Restoring other.dialect (other.reader.read bytes) (other.trace client s).executed outcome
      ∧ ((other.run client).on s).1 = outcome.map fun rows =>
        ⟨plan.archivePath, RestorePlan.counts other.database rows⟩
  files : ((other.run client).on s).2.files = s.files

theorem Shelved.recovered {s : Workspace ρ} (hplan : plan.Named) (hother : Recovers other plan)
    (h : plan.Shelved bytes s.files place)
    (hsource : other.source s.files = .ok plan.archivePath)
    (hempty : ((RestorePlan.nonEmpty client other.database.tables).on s).1 = .ok []) :
    Recovered plan bytes other client s := by
  have hasked := RestorePlan.nonEmpty_watches client other.database.tables
    ⟨s.files, s.journal, (s.remote, .empty)⟩
  have hwatched := other.run_watches client ⟨s.files, s.journal, (s.remote, .empty)⟩
  obtain ⟨s', statements, outcome, hon, hrestoring, hfiles, htrace⟩ :=
    Shelved.run_traced_on client hplan hother (s := ⟨s.files, s.journal, (s.remote, .empty)⟩) h
      hsource ((congrArg Prod.fst hasked).symm.trans hempty)
  rw [hon] at hwatched
  have hrun : (other.run client).on s = (_, s'.untraced) := hwatched
  refine ⟨?_, ⟨outcome, ?_, ?_⟩, ?_⟩
  · have hunpacking := h.unpacking hplan
    rw [← hother.repository] at hunpacking
    rw [RestorePlan.chosen, hsource]
    dsimp only
    rw [RestorePlan.chosenFrom, if_pos hplan.suffix_archivePath, hunpacking]
    rfl
  · rw [RestorePlan.trace, hon, htrace]
    exact hrestoring
  · rw [hrun]
  · rw [hrun]
    exact hfiles

/-! ## Runs -/

/-- If no archive of a later day was there before the backup, none is there now. -/
theorem Shelved.later_absent {u t : FileTree} (hplan : plan.Named) (h : plan.Shelved bytes t place)
    (hsame : u.SameDirectories t)
    (hothers : ∀ other, other ≠ place ++ [plan.stem ++ archiveSuffix] →
      other ≠ place ++ [plan.stem ++ documentSuffix] → t.nodeAt? other = u.nodeAt? other)
    {day : Date} (hvalid : day.isValid = true) (hlt : plan.today.number < day.number)
    (hlater : u.isFile (plan.repository.child (archiveName plan.database.name day)) = false) :
    t.isFile (plan.repository.child (archiveName plan.database.name day)) = false := by
  refine Bool.eq_false_iff.mpr fun hfile => ?_
  obtain ⟨hname, hdots⟩ := isName_archiveName hplan.slash hvalid
  obtain ⟨last, content, hlast, hnode⟩ := FileTree.isFile_iff.mp hfile
  have hbefore := hsame.place_eq_ok_iff.mp hlast
  rw [Path.child_of_isName _ hname, FileTree.place_snoc_eq_ok_iff hdots] at hlast
  obtain ⟨_, hplace, -, rfl⟩ := hlast
  obtain rfl := Except.ok.inj (h.repository.symm.trans hplace)
  have harchive : place ++ [archiveName plan.database.name day]
      ≠ place ++ [plan.stem ++ archiveSuffix] := by
    intro heq
    have hnames := List.singleton_injective (List.append_cancel_left heq)
    obtain rfl := archiveName_injective hvalid hnames hplan.valid
    exact Nat.lt_irrefl _ hlt
  have hdocument : place ++ [archiveName plan.database.name day]
      ≠ place ++ [plan.stem ++ documentSuffix] := by
    intro heq
    rw [heq, h.document] at hnode
    cases hnode
  rw [hothers _ harchive hdocument] at hnode
  cases hlater.symm.trans (FileTree.isFile_iff.mpr ⟨_, content, hbefore, hnode⟩)

/-- **The latest backup is what is restored.** A run that packs its document leaves the archive of
the day and no document, and every other file as it was. If no archive is of a later day, a run that
is told of no backup, and finds all tables empty, takes that archive, restores the lines that were
written, and leaves the files as they were left for it. -/
theorem run_recovered {s : Workspace ρ} {path : Path} (hplan : plan.Named)
    (harchive : plan.archive = true)
    (hlater : ∀ u, s.files.makeDirectories plan.repository = .ok u →
      ∀ day : Date, day.isValid = true → plan.today.number < day.number →
        u.isFile (plan.repository.child (archiveName plan.database.name day)) = false)
    (hrun : ((plan.run client).on s).1 = .ok path) :
    let bytes := Text.Utf8.encode (documentText (plan.written client s.remote).lines)
    let t := ((plan.run client).on s).2.files
    path = plan.archivePath ∧ (plan.written client s.remote).failure = none
      ∧ (∃ place, plan.Shelved bytes t place
        ∧ ∀ other content, other ≠ place ++ [plan.stem ++ archiveSuffix] →
          other ≠ place ++ [plan.stem ++ documentSuffix] →
          (t.nodeAt? other = some (.file content) ↔ s.files.nodeAt? other = some (.file content)))
      ∧ ∀ {ρ' : Type} (other : RestorePlan) (client' : Client ρ') (journal : List Entry)
          (remote : ρ'), Recovers other plan →
        ((RestorePlan.nonEmpty client' other.database.tables).on ⟨t, journal, remote⟩).1 = .ok [] →
        Recovered plan bytes other client' ⟨t, journal, remote⟩ := by
  intro bytes t
  have hmade := plan.run_made client s
  rw [hrun] at hmade
  obtain ⟨hpath, hfailure, u, place, hmake, hsame, hshelved, hothers⟩ :=
    hmade.shelved hplan harchive
  have hextends := FileTree.makeDirectories_extends hmake
  refine ⟨hpath, hfailure, ⟨place, hshelved, fun other content harchived hdocumented => ?_⟩,
    fun other client' journal remote hother hempty => ?_⟩
  · rw [hothers other harchived hdocumented]
    exact ⟨hextends.file other content, hextends.node other _⟩
  · have hlatest := hshelved.latest hplan fun day hvalid hlt =>
      hshelved.later_absent hplan hsame hothers hvalid hlt (hlater u hmake day hvalid hlt)
    have hsource : other.source t = .ok plan.archivePath := by
      unfold RestorePlan.source
      rw [hother.unnamed, hother.repository, hother.database]
      dsimp only
      rw [hlatest]
    exact Shelved.recovered client' hplan hother hshelved hsource hempty

/-- The shelf with a pen is backed up into a directory without archives, and restored from it. -/
theorem run_recovered_shelf :
    let plan := { shelf with archive := true }
    let client := answering (.ok [[⟨"id", .int 7⟩, ⟨"name", .text "pen"⟩]])
    let s : Workspace Unit := ⟨⟨[(["b"], .directory)], []⟩, [], ()⟩
    let t := ((plan.run client).on s).2.files
    let other : RestorePlan := ⟨.shelf, Path.ofText "b", none, .mysql, Plural.ofName, none⟩
    let path := Path.ofText "b/shop-2024-03-01.zip"
    plan.Named
      ∧ (∀ u, s.files.makeDirectories plan.repository = .ok u →
        ∀ day : Date, day.isValid = true → plan.today.number < day.number →
          u.isFile (plan.repository.child (archiveName plan.database.name day)) = false)
      ∧ ((plan.run client).on s).1 = .ok path
      ∧ ((other.run RestorePlan.willing).on ⟨t, [], ()⟩).1 = .ok ⟨path, [("item", 1)]⟩
      ∧ Recovered plan (Text.Utf8.encode (documentText (plan.written client ()).lines)) other
        RestorePlan.willing ⟨t, [], ()⟩ := by
  intro plan client s t other path
  have hplan : plan.Named := ⟨by decide, by decide, by decide⟩
  have hlater : ∀ u, s.files.makeDirectories plan.repository = .ok u →
      ∀ day : Date, day.isValid = true → plan.today.number < day.number →
        u.isFile (plan.repository.child (archiveName plan.database.name day)) = false := by
    intro u hmake day _ _
    rw [FileTree.makeDirectories_eq_self (by decide +kernel)] at hmake
    obtain rfl := Except.ok.inj hmake
    -- there is no file at all
    refine Bool.eq_false_iff.mpr fun hfile => ?_
    obtain ⟨place, content, -, hnode⟩ := FileTree.isFile_iff.mp hfile
    by_cases hroot : place = []
    · subst hroot
      cases hnode
    · rw [FileTree.nodeAt?_of_ne hroot] at hnode
      obtain ⟨_, _, hnodes, -⟩ := List.lookup_eq_some_iff.mp hnode
      have hmem : (place, Node.file content) ∈ s.files.nodes := by
        rw [hnodes]
        exact List.mem_append_right _ (List.mem_cons_self ..)
      cases List.mem_singleton.mp hmem
  have hrun : ((plan.run client).on s).1 = .ok path := by decide +kernel
  have hempty : ((RestorePlan.nonEmpty RestorePlan.willing other.database.tables).on
      ⟨((plan.run client).on s).2.files, [], ()⟩).1 = .ok [] := by
    decide +kernel
  obtain ⟨-, -, -, hrecovered⟩ := run_recovered client hplan rfl hlater hrun
  refine ⟨hplan, hlater, hrun, by decide +kernel, ?_⟩
  exact hrecovered other RestorePlan.willing [] () ⟨rfl, rfl, rfl⟩ hempty

end BackupPlan

end Tablekeep.Repository
