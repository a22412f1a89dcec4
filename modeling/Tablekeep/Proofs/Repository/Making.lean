import Tablekeep.Definition.Plural
import Tablekeep.Proofs.Definition.Validity
import Tablekeep.Proofs.Files.Change
import Tablekeep.Proofs.Workspace
import Tablekeep.Repository.Backup

/-!
# How making a backup ends

A document is begun before its rows are fetched, and what was begun is removed if they cannot be
fetched or written. `Documented` is how that ends, `Packing` how packing ends, and `Made` how the
two make up a run: each is a relation between the files there were, the outcome, and the files
there are then.

The document is begun over whatever file lies in its place. So a backup that fails takes away the
document that another backup of the same day left there, and it leaves the files as they were
exactly if there was none.
-/

namespace Tablekeep.Repository

open Files Backup

variable {ρ : Type}

namespace RepositoryError

/-- The error is none of rows. -/
def OfFiles (e : RepositoryError) : Prop :=
  e = .nameless ∨ ∃ cause, e = .file cause

theorem OfFiles.ne_ofSource {e : RepositoryError} (h : OfFiles e)
    (cause : SourceError ServerError) : e ≠ ofSource cause := by
  rcases h with rfl | ⟨_, rfl⟩
  · cases cause <;> simp [ofSource]
  · cases cause <;> simp [ofSource]

theorem ofSource_injective {e e' : SourceError ServerError} (h : ofSource e = ofSource e') :
    e = e' := by
  cases e <;> cases e' <;> cases h <;> rfl

end RepositoryError

/-! ## Packing -/

/-- How packing a document ends. -/
inductive Packing (document : Path) (t : FileTree) :
    Except RepositoryError Path → FileTree → Prop
  /-- Something is wrong with the files, and an archive may have been begun. -/
  | failed {e : RepositoryError} {t' : FileTree} : e.OfFiles → Packing document t (.error e) t'
  /-- The archive has the document as its one member, and the document is gone. -/
  | packed {archive : Path} {place last : Place} {content : Content} :
      document.withSuffix? archiveSuffix = some archive →
      t.place archive = .ok place → t.nodeAt? place ≠ some .directory →
      t.place document = .ok last →
      (t.put place (.file (.archive []))).nodeAt? last = some (.file content) →
      Packing document t (.ok archive)
        ((t.put place (.file (.archive [(document.name, content.toBytes)]))).drop last)

theorem packed_of_file {t : FileTree} {p : Path} {last : Place} {content : Content}
    (hplace : t.place p = .ok last) (hnode : t.nodeAt? last = some (.file content)) :
    packed t p = .ok (p.name, content.toBytes) := by
  have hdirectory : ¬ t.isDirectory p = true := by
    rw [FileTree.isDirectory, FileTree.node?, hplace]
    dsimp only
    rw [hnode]
    exact Bool.false_ne_true
  rw [packed, if_neg hdirectory, FileTree.read_eq_ok_iff.mpr ⟨last, hplace, hnode⟩]
  rfl

/-- A file that is written over stays a file. -/
theorem file_of_put {t : FileTree} {place last : Place} {content new : Content} (old : Content)
    (hne : place ≠ []) (h : (t.put place (.file new)).nodeAt? last = some (.file content)) :
    ∃ content', (t.put place (.file old)).nodeAt? last = some (.file content') := by
  rw [FileTree.nodeAt?_put hne] at h ⊢
  by_cases hlast : last = place
  · exact ⟨old, if_pos hlast⟩
  · rw [if_neg hlast] at h ⊢
    exact ⟨content, h⟩

theorem pack_on (document : Path) (s : Workspace ρ) :
    ∃ outcome s', (pack document).on s = (outcome, s')
      ∧ Packing document s.files outcome s'.files := by
  unfold pack
  cases hsuffix : document.withSuffix? archiveSuffix with
  | none => exact ⟨_, _, rfl, .failed (.inl rfl)⟩
  | some archive =>
      dsimp only
      cases hbegin : s.files.write archive (.archive []) with
      | error e =>
          exact ⟨_, _, Work.on_bind_error (Work.on_change_error hbegin), .failed (.inr ⟨e, rfl⟩)⟩
      | ok begun =>
          rw [Work.on_bind_ok (Work.on_change_ok hbegin), Work.on_bind_ok Work.on_files]
          obtain ⟨place, hplace, hfree, rfl⟩ := FileTree.write_eq_ok_iff.mp hbegin
          have hne := FileTree.ne_nil_of_nodeAt? hfree
          dsimp only
          cases hmember : packed (s.files.put place (.file (.archive []))) document with
          | error e =>
              refine ⟨_, _, Work.on_bind_error (Work.on_ofExcept_error rfl), ?_⟩
              exact .failed (.inr ⟨e, rfl⟩)
          | ok member =>
              rw [Work.on_bind_ok (Work.on_ofExcept_ok rfl)]
              have hbegun := FileTree.SameDirectories.put hfree (.archive [])
              have hended := FileTree.SameDirectories.put hfree (.archive [member])
              have hwrite : (s.files.put place (.file (.archive []))).write archive
                  (.archive [member]) = .ok (s.files.put place (.file (.archive [member]))) := by
                refine FileTree.write_eq_ok_iff.mpr
                  ⟨place, hbegun.place_eq_ok_iff.mpr hplace, ?_, ?_⟩
                · exact fun h => hfree ((hbegun.directory place).mp h)
                · rw [FileTree.put_put]
              rw [Work.on_bind_ok (Work.on_change_ok hwrite)]
              cases hremove : (s.files.put place (.file (.archive [member]))).remove document with
              | error e =>
                  refine ⟨_, _, Work.on_bind_error (Work.on_change_error hremove), ?_⟩
                  exact .failed (.inr ⟨e, rfl⟩)
              | ok t =>
                  rw [Work.on_bind_ok (Work.on_change_ok hremove),
                    Work.on_bind_ok (Work.on_log _ _)]
                  obtain ⟨last, _, hlast, hfile, rfl⟩ := FileTree.remove_eq_ok_iff.mp hremove
                  have hdocument := hended.place_eq_ok_iff.mp hlast
                  obtain ⟨content, hcontent⟩ := file_of_put (.archive []) hne hfile
                  rw [packed_of_file (hbegun.place_eq_ok_iff.mpr hdocument) hcontent] at hmember
                  obtain rfl := Except.ok.inj hmember
                  exact ⟨_, _, rfl, .packed hsuffix hplace hfree hdocument hcontent⟩

/-! ## The document -/

namespace BackupPlan

variable (plan : BackupPlan) (client : Client ρ)

/-- The lines of the document and what stopped them, when the servers are as in `remote`. -/
def written (plan : BackupPlan) (client : Client ρ) (remote : ρ) :
    Written (SourceError ServerError) :=
  ((documentLines client.rows plan.plural plan.zone plan.database).run remote).1

/-- How writing the document ends. -/
inductive Documented (plan : BackupPlan) (written : Written (SourceError ServerError))
    (t : FileTree) : Except RepositoryError Unit → FileTree → Prop
  /-- The document cannot be begun. -/
  | unopened {e : RepositoryError} : e.OfFiles → Documented plan written t (.error e) t
  /-- The rows are no good, and there is no document. -/
  | dropped {place : Place} {e : SourceError ServerError} :
      t.place plan.document = .ok place → t.nodeAt? place ≠ some .directory →
      written.failure = some e →
      Documented plan written t (.error (.ofSource e)) (t.drop place)
  /-- The document has the lines. -/
  | written {place : Place} :
      t.place plan.document = .ok place → t.nodeAt? place ≠ some .directory →
      written.failure = none →
      Documented plan written t (.ok ())
        (t.put place (.file (.bytes (Text.Utf8.encode (documentText written.lines)))))

theorem writeDocument_on (s : Workspace ρ) :
    ∃ outcome s', (plan.writeDocument client).on s = (outcome, s')
      ∧ plan.Documented (plan.written client s.remote) s.files outcome s'.files := by
  unfold writeDocument
  cases hbegin : s.files.write plan.document (.bytes []) with
  | error e =>
      exact ⟨_, _, Work.on_bind_error (Work.on_change_error hbegin), .unopened (.inr ⟨e, rfl⟩)⟩
  | ok begun =>
      rw [Work.on_bind_ok (Work.on_change_ok hbegin), Work.on_bind_ok (Work.on_ask _)]
      obtain ⟨place, hplace, hfree, rfl⟩ := FileTree.write_eq_ok_iff.mp hbegin
      have hbegun := FileTree.SameDirectories.put hfree (.bytes [])
      have hthere := hbegun.place_eq_ok_iff.mpr hplace
      dsimp only
      split
      · rename_i e hfailure
        have hremove : (s.files.put place (.file (.bytes []))).remove plan.document
            = .ok (s.files.drop place) := by
          refine FileTree.remove_eq_ok_iff.mpr ⟨place, .bytes [], hthere, ?_, ?_⟩
          · rw [FileTree.nodeAt?_put (FileTree.ne_nil_of_nodeAt? hfree), if_pos rfl]
          · rw [FileTree.drop_put]
        rw [Work.on_bind_ok (Work.on_change_ok hremove)]
        exact ⟨_, _, rfl, .dropped hplace hfree hfailure⟩
      · rename_i hfailure
        refine ⟨_, _, Work.on_change_ok (FileTree.write_eq_ok_iff.mpr ⟨place, hthere, ?_, ?_⟩),
          .written hplace hfree hfailure⟩
        · exact fun h => hfree ((hbegun.directory place).mp h)
        · rw [FileTree.put_put]
          rfl

/-! ## Runs -/

/-- How a run ends. -/
inductive Made (plan : BackupPlan) (written : Written (SourceError ServerError)) (t : FileTree) :
    Except RepositoryError Path → FileTree → Prop
  /-- There is no repository, and none can be made. -/
  | unprepared {e : RepositoryError} : e.OfFiles → Made plan written t (.error e) t
  /-- There is no document. -/
  | undocumented {u t' : FileTree} {e : RepositoryError} :
      t.makeDirectories plan.repository = .ok u → plan.Documented written u (.error e) t' →
      Made plan written t (.error e) t'
  /-- The document is left as it is. -/
  | documented {u t' : FileTree} :
      t.makeDirectories plan.repository = .ok u → plan.archive = false →
      plan.Documented written u (.ok ()) t' → Made plan written t (.ok plan.document) t'
  /-- The document is packed. -/
  | packed {u v t' : FileTree} {outcome : Except RepositoryError Path} :
      t.makeDirectories plan.repository = .ok u → plan.archive = true →
      plan.Documented written u (.ok ()) v → Packing plan.document v outcome t' →
      Made plan written t outcome t'

theorem run_made (s : Workspace ρ) :
    plan.Made (plan.written client s.remote) s.files ((plan.run client).on s).1
      ((plan.run client).on s).2.files := by
  unfold run
  cases hmake : s.files.makeDirectories plan.repository with
  | error e =>
      rw [Work.on_bind_error (Work.on_change_error hmake)]
      exact .unprepared (.inr ⟨e, rfl⟩)
  | ok u =>
      rw [Work.on_bind_ok (Work.on_change_ok hmake), Work.on_bind_ok (Work.on_log _ _)]
      dsimp only
      obtain ⟨outcome, s', hon, hdocumented⟩ := plan.writeDocument_on client
        ⟨u, s.journal ++ [.record .info
          ("Backing up database " ++ plan.database.name ++ " to " ++ plan.document.toText)],
          s.remote⟩
      cases outcome with
      | error e =>
          rw [Work.on_bind_error hon]
          exact .undocumented hmake hdocumented
      | ok =>
          rw [Work.on_bind_ok hon]
          by_cases harchive : plan.archive = true
          · rw [if_pos harchive]
            obtain ⟨outcome, s'', hpack, hpacking⟩ := pack_on plan.document s'
            rw [hpack]
            exact .packed hmake harchive hdocumented hpacking
          · rw [if_neg harchive]
            exact .documented hmake (by simpa using harchive) hdocumented

/-- Only rows make a run end with an error of rows, and then there is no document. -/
theorem Made.dropped {written : Written (SourceError ServerError)} {t t' : FileTree}
    {cause : SourceError ServerError} (h : plan.Made written t (.error (.ofSource cause)) t') :
    written.failure = some cause ∧ ∃ u place, t.makeDirectories plan.repository = .ok u
      ∧ u.place plan.document = .ok place ∧ u.nodeAt? place ≠ some .directory
      ∧ t' = u.drop place := by
  generalize houtcome : (.error (.ofSource cause) : Except RepositoryError Path) = outcome at h
  cases h with
  | unprepared he => exact absurd (Except.error.inj houtcome).symm (he.ne_ofSource cause)
  | documented => cases houtcome
  | undocumented hmake hdocumented =>
      obtain rfl := Except.error.inj houtcome
      generalize houtcome' : (Except.error (.ofSource cause) : Except RepositoryError Unit)
        = outcome at hdocumented
      cases hdocumented with
      | unopened he => exact absurd (Except.error.inj houtcome').symm (he.ne_ofSource cause)
      | dropped hplace hfree hfailure =>
          obtain rfl := RepositoryError.ofSource_injective (Except.error.inj houtcome')
          exact ⟨hfailure, _, _, hmake, hplace, hfree, rfl⟩
      | written => cases houtcome'
  | packed hmake _ hdocumented hpacking =>
      cases hpacking with
      | failed he => exact absurd (Except.error.inj houtcome).symm (he.ne_ofSource cause)
      | packed => cases houtcome

/-- **A run that fails on rows leaves no document of its day**, and all else as it was. So it leaves
the files as they were exactly if there was no document of the day before. -/
theorem run_dropped {s : Workspace ρ} {cause : SourceError ServerError}
    (hrepository : s.files.isDirectory plan.repository = true)
    (h : ((plan.run client).on s).1 = .error (.ofSource cause)) :
    (plan.written client s.remote).failure = some cause
      ∧ ∃ place, s.files.place plan.document = .ok place
        ∧ s.files.nodeAt? place ≠ some .directory
        ∧ (∀ other, ((plan.run client).on s).2.files.nodeAt? other
          = if other = place then none else s.files.nodeAt? other)
        ∧ (((plan.run client).on s).2.files = s.files
          ↔ s.files.present plan.document = false) := by
  have hmade := plan.run_made client s
  rw [h] at hmade
  obtain ⟨hfailure, u, place, hmake, hplace, hfree, hdrop⟩ := hmade.dropped
  rw [FileTree.makeDirectories_eq_self hrepository] at hmake
  obtain rfl := Except.ok.inj hmake
  have hnodes := FileTree.nodeAt?_drop (t := s.files) (FileTree.ne_nil_of_nodeAt? hfree)
  rw [hdrop, FileTree.present_eq hplace]
  refine ⟨hfailure, place, hplace, hfree, hnodes, fun hsame => ?_, fun habsent => ?_⟩
  · rw [← hsame, hnodes, if_pos rfl]
    rfl
  · exact FileTree.drop_eq_self (by simpa using habsent)

/-- The shelf is backed up into a directory, and the document is not packed. -/
def shelf : BackupPlan :=
  ⟨.shelf, Path.ofText "b", ⟨2024, 3, 1⟩, false, Plural.ofName, none⟩

/-- A client that has one answer for whoever asks for rows. -/
def answering (answer : Except ServerError (List Row)) : Client Unit :=
  ⟨fun _ => pure answer, fun _ => pure (.ok false), fun _ => pure (.ok ())⟩

theorem run_dropped_shelf :
    let client := answering (.error (.rejected "gone"))
    let s : Workspace Unit := ⟨⟨[(["b"], .directory)], []⟩, [], ()⟩
    s.files.isDirectory shelf.repository = true
      ∧ ((shelf.run client).on s).1 = .error (.ofSource (.source (.rejected "gone")))
      ∧ s.files.present shelf.document = false ∧ ((shelf.run client).on s).2.files = s.files := by
  intro client s
  have hrepository : s.files.isDirectory shelf.repository = true := by decide +kernel
  have hfails : ((shelf.run client).on s).1 = .error (.ofSource (.source (.rejected "gone"))) := by
    decide +kernel
  have habsent : s.files.present shelf.document = false := by decide +kernel
  obtain ⟨-, place, -, -, -, hsame⟩ := shelf.run_dropped client hrepository hfails
  exact ⟨hrepository, hfails, habsent, hsame.mpr habsent⟩

/-- A document that was there is lost when the next backup of the day fails. -/
theorem run_loses_document :
    let s : Workspace Unit := ⟨⟨[(["b"], .directory)], []⟩, [], ()⟩
    let first := (shelf.run (answering (.ok []))).on s
    let second := (shelf.run (answering (.error (.rejected "gone")))).on first.2
    first.1 = .ok shelf.document ∧ second.1 = .error (.server (.rejected "gone"))
      ∧ first.2.files.isFile shelf.document = true
      ∧ second.2.files.present shelf.document = false := by
  decide +kernel

end BackupPlan

end Tablekeep.Repository
