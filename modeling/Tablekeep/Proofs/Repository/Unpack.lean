import Tablekeep.Proofs.Files.Path
import Tablekeep.Proofs.Files.Tree
import Tablekeep.Proofs.Outcome
import Tablekeep.Proofs.Workspace
import Tablekeep.Repository.Archive

/-!
# Unpacking

What `unpack` comes to is a function of the files: `unpacking` says which document it puts where,
or why it refuses, and `placed` what the files are then.

A document is put where its path leads once double dots are collapsed, and looked for where the
path itself leads. If the path leads anywhere, the two are one place, and there was nothing before.
Then what was unpacked can be read and removed, and the files are as they were, with some more
directories. Otherwise it has gone astray: it cannot be found, and a file that was in its place is
lost. That happens only if some double dot of the repository steps back from where there is no
directory.
-/

namespace Tablekeep.Repository

open Files

variable {ρ : Type} {s : Workspace ρ}

/-! ## What is done -/

/-- The files with the directories to a path, if there was nothing at the path. -/
def prepared (t : FileTree) (path : Path) : Except FileError FileTree :=
  if t.present path then .ok t else t.makeDirectories path

/-- The files with one that is written, and with the directories on the way to it. -/
def placed (t : FileTree) (path : Path) (content : List UInt8) : Except FileError FileTree := do
  let t ← prepared t path.parent
  t.write path (.bytes content)

theorem prepared_extends {t u : FileTree} {path : Path} (h : prepared t path = .ok u) :
    t.Extends u := by
  unfold prepared at h
  split at h
  · obtain rfl := Except.ok.inj h
    exact .refl t
  · exact FileTree.makeDirectories_extends h

/-- The document that is to be unpacked from an archive, and what it holds. -/
def packedDocument (t : FileTree) (archive repository : Path) :
    Except RepositoryError (Path × List UInt8) :=
  if t.isFile archive = false then .error (.archiveMissing archive)
  else
    match archive.withSuffix? documentSuffix with
    | none => .error .nameless
    | some document =>
      let target := repository.child document.name
      if t.present target then .error (.memberPresent archive document.name)
      else
        match t.read archive with
        | .error e => .error (.file e)
        | .ok content =>
          match content.members? with
          | none => .error .notAnArchive
          | some members =>
            match member? members document.name with
            | none => .error (.memberMissing document.name archive)
            | some bytes => .ok (target, bytes)

/-- The document that is unpacked from an archive, what it holds, and the files then. -/
def unpacking (t : FileTree) (archive repository : Path) :
    Except RepositoryError (Path × List UInt8 × FileTree) := do
  let (document, bytes) ← packedDocument t archive repository
  let t ← (placed t document.collapse bytes).mapError .file
  return (document, bytes, t)

/-- Placing a file is to prepare the way and to write. -/
theorem place_on (path : Path) (content : List UInt8) :
    (place path content : Work ρ RepositoryError Unit).on s
      = (Work.change .file (prepared · path.parent) >>= fun _ =>
          Work.change .file (·.write path (.bytes content)) :
            Work ρ RepositoryError Unit).on s := by
  unfold place
  rw [Work.on_bind_ok Work.on_files]
  by_cases hparent : s.files.present path.parent = true
  · have hprepared : prepared s.files path.parent = .ok s.files := if_pos hparent
    rw [if_neg (by simp [hparent]), Work.on_bind_ok (Work.on_change_ok hprepared)]
  · have hprepared : prepared s.files path.parent = s.files.makeDirectories path.parent :=
      if_neg hparent
    rw [if_pos (by simp [hparent])]
    cases hmake : s.files.makeDirectories path.parent with
    | error e =>
        rw [Work.on_bind_error (Work.on_change_error hmake),
          Work.on_bind_error (Work.on_change_error (hprepared.trans hmake))]
    | ok u =>
        rw [Work.on_bind_ok (Work.on_change_ok hmake),
          Work.on_bind_ok (Work.on_change_ok (hprepared.trans hmake))]

theorem place_on_ok {path : Path} {content : List UInt8} {t : FileTree}
    (h : placed s.files path content = .ok t) :
    (place path content : Work ρ RepositoryError Unit).on s = (.ok (), { s with files := t }) := by
  obtain ⟨u, hu, hwrite⟩ := Outcome.bind_eq_ok_iff.mp h
  rw [place_on, Work.on_bind_ok (Work.on_change_ok hu)]
  exact Work.on_change_ok hwrite

theorem place_on_error {path : Path} {content : List UInt8} {e : FileError}
    (h : placed s.files path content = .error e) :
    ∃ t, s.files.Extends t ∧ (place path content : Work ρ RepositoryError Unit).on s
      = (.error (.file e), { s with files := t }) := by
  unfold placed at h
  rw [place_on]
  cases hprepared : prepared s.files path.parent with
  | error e' =>
      rw [hprepared] at h
      obtain rfl := Except.error.inj h
      exact ⟨s.files, .refl _, Work.on_bind_error (Work.on_change_error hprepared)⟩
  | ok u =>
      rw [hprepared] at h
      refine ⟨u, prepared_extends hprepared, ?_⟩
      rw [Work.on_bind_ok (Work.on_change_ok hprepared)]
      exact Work.on_change_error h

/-- Everything is checked before a file is touched. -/
theorem unpack_on (archive repository : Path) :
    (unpack archive repository : Work ρ RepositoryError Path).on s
      = match packedDocument s.files archive repository with
        | .error e => (.error e, s)
        | .ok (document, bytes) =>
          (place document.collapse bytes >>= fun _ => pure document :
            Work ρ RepositoryError Path).on s := by
  unfold packedDocument unpack
  rw [Work.on_bind_ok Work.on_files]
  by_cases hfile : s.files.isFile archive = false
  · rw [if_pos hfile, if_pos (by simp [hfile]), Work.on_bind_error (Work.on_fail _)]
  · rw [if_neg hfile, if_neg (by simpa using hfile)]
    cases archive.withSuffix? documentSuffix with
    | none => rfl
    | some q =>
        dsimp only
        rw [Work.on_bind_ok Work.on_files]
        by_cases hpresent : s.files.present (repository.child q.name) = true
        · rw [if_pos hpresent, if_pos hpresent, Work.on_bind_error (Work.on_fail _)]
        · rw [if_neg hpresent, if_neg hpresent, Work.on_bind_ok Work.on_files]
          cases hread : s.files.read archive with
          | error e => rw [Work.on_bind_error (Work.on_ofExcept_error rfl)]
          | ok content =>
              rw [Work.on_bind_ok (Work.on_ofExcept_ok rfl)]
              dsimp only
              cases content.members? with
              | none => rfl
              | some members =>
                  dsimp only
                  cases member? members q.name <;> rfl

theorem unpacking_eq_ok_iff {t t' : FileTree} {archive repository document : Path}
    {bytes : List UInt8} :
    unpacking t archive repository = .ok (document, bytes, t')
      ↔ packedDocument t archive repository = .ok (document, bytes)
        ∧ placed t document.collapse bytes = .ok t' := by
  constructor
  · intro h
    obtain ⟨⟨document, bytes⟩, hpacked, h⟩ := Outcome.bind_eq_ok_iff.mp h
    obtain ⟨t', hplaced, h⟩ := Outcome.bind_eq_ok_iff.mp h
    cases h
    exact ⟨hpacked, Outcome.mapError_eq_ok_iff.mp hplaced⟩
  · rintro ⟨hpacked, hplaced⟩
    refine Outcome.bind_eq_ok_iff.mpr ⟨_, hpacked, ?_⟩
    exact Outcome.bind_eq_ok_iff.mpr ⟨t', Outcome.mapError_eq_ok_iff.mpr hplaced, rfl⟩

theorem unpack_on_ok {archive repository document : Path} {bytes : List UInt8} {t : FileTree}
    (h : unpacking s.files archive repository = .ok (document, bytes, t)) :
    (unpack archive repository : Work ρ RepositoryError Path).on s
      = (.ok document, { s with files := t }) := by
  obtain ⟨hpacked, hplaced⟩ := unpacking_eq_ok_iff.mp h
  rw [unpack_on, hpacked]
  dsimp only
  rw [Work.on_bind_ok (place_on_ok hplaced)]
  exact Work.on_pure document

theorem unpack_on_error {archive repository : Path} {e : RepositoryError}
    (h : unpacking s.files archive repository = .error e) :
    ∃ t, s.files.Extends t ∧ (unpack archive repository : Work ρ RepositoryError Path).on s
      = (.error e, { s with files := t }) := by
  unfold unpacking at h
  rw [unpack_on]
  cases hpacked : packedDocument s.files archive repository with
  | error e' =>
      rw [hpacked] at h
      obtain rfl := Except.error.inj h
      exact ⟨s.files, .refl _, rfl⟩
  | ok found =>
      obtain ⟨document, bytes⟩ := found
      rw [hpacked] at h
      change ((placed s.files document.collapse bytes).mapError RepositoryError.file
        >>= fun t => Except.ok (document, bytes, t)) = .error e at h
      cases hplaced : placed s.files document.collapse bytes with
      | ok t =>
          rw [hplaced] at h
          cases h
      | error e' =>
          rw [hplaced] at h
          obtain rfl := Except.error.inj h
          obtain ⟨t, hextends, hplace⟩ := place_on_error (ρ := ρ) hplaced
          refine ⟨t, hextends, ?_⟩
          dsimp only
          rw [Work.on_bind_error hplace]

/-! ## What was unpacked -/

/-- What is unpacked lies in the repository under a name, and did not lie there. -/
theorem packedDocument_eq_ok {t : FileTree} {archive repository document : Path}
    {bytes : List UInt8} (harchive : archive.Clean)
    (h : packedDocument t archive repository = .ok (document, bytes)) :
    t.present document = false ∧
      ∃ name, name ≠ ".." ∧ document = { repository with names := repository.names ++ [name] } := by
  unfold packedDocument at h
  split at h
  · cases h
  · split at h
    · cases h
    · rename_i q hq
      dsimp only at h
      split at h
      · cases h
      · rename_i habsent
        split at h
        · cases h
        · split at h
          · cases h
          · split at h
            · cases h
            · obtain ⟨rfl, rfl⟩ := Prod.mk.inj (Except.ok.inj h)
              have hsuffix : '/' ∉ documentSuffix.toList := by simp [documentSuffix]
              have hlength : 3 ≤ documentSuffix.toList.length := by simp [documentSuffix]
              obtain ⟨hname, hdots⟩ := Path.isName_of_withSuffix? harchive hsuffix hlength hq
              exact ⟨by simpa using habsent, q.name, hdots, Path.child_of_isName repository hname⟩

/-- A document that was unpacked can be read and be removed, and nothing is left of it but
directories. -/
structure Unpacked (t t' : FileTree) (document : Path) (bytes : List UInt8) : Prop where
  present : t'.present document = true
  read : t'.read document = .ok (.bytes bytes)
  removed : ∃ u, t'.remove document = .ok u ∧ t.Extends u ∧ u.present document = false

/-- What was placed can be dropped from where there was nothing. -/
theorem extends_drop_put {t u : FileTree} {document : Path} {last : Place} {node : Node}
    (hu : t.Extends u) (hlast : u.place document = .ok last) (hne : last ≠ [])
    (hfree : u.nodeAt? last = none) :
    t.Extends ((u.put last node).drop last)
      ∧ ((u.put last node).drop last).present document = false := by
  have hsame := FileTree.nodeAt?_drop_put hne hfree node
  refine ⟨⟨hu.here, fun place other hnode => ?_, fun place content hnode => ?_⟩, ?_⟩
  · rw [hsame]
    exact hu.node place other hnode
  · rw [hsame] at hnode
    exact hu.file place content hnode
  · have hdrop : ((u.put last node).drop last).place document = .ok last := by
      refine FileTree.walk_of_directories (fun place hplace => ?_) hlast
      rw [hsame]
      exact hplace
    rw [FileTree.present_eq hdrop, hsame, hfree]
    rfl

/-- A collapsed path leads to what is there. -/
theorem place_collapse_of_node {t u : FileTree} {document : Path} {last : Place} {node : Node}
    (ht : t.Consistent) (hu : t.Extends u) (hlast : u.place document.collapse = .ok last)
    (hnode : t.nodeAt? last = some node) : t.place document.collapse = .ok last := by
  have hback : t.StepsBackFrom (if document.collapse.isAbsolute then [] else t.here)
      document.collapse.names := by
    obtain ⟨n, plain, hnames, hplain⟩ := document.dotsFirst_collapse
    rw [hnames]
    refine ht.stepsBackFrom ?_ n hplain
    split
    · exact FileTree.nodeAt?_nil
    · exact ht.here
  unfold FileTree.place at hlast ⊢
  rw [hu.here] at hlast
  exact FileTree.walk_of_node ht hback hlast hnode

/-- Where something is written over a node that was there, no directories are made. -/
theorem eq_of_prepared {t u : FileTree} {document : Path} {last : Place} {node : Node}
    (ht : t.Consistent) (h : prepared t document.collapse.parent = .ok u)
    (hlast : u.place document.collapse = .ok last) (hnode : t.nodeAt? last = some node) :
    u = t := by
  have hplace := place_collapse_of_node ht (prepared_extends h) hlast hnode
  rw [prepared, if_pos (FileTree.present_parent hplace hnode)] at h
  exact (Except.ok.inj h).symm

/-- What is written over was looked at. -/
theorem nodeAt?_eq_none_of_absent {t u : FileTree} {document : Path} {last : Place}
    (ht : t.Consistent) (habsent : t.present document = false)
    (hprepared : prepared t document.collapse.parent = .ok u)
    (hlast : u.place document = .ok last) (hcollapse : u.place document.collapse = .ok last)
    (hdirectory : u.nodeAt? last ≠ some .directory) : u.nodeAt? last = none := by
  cases hnode : u.nodeAt? last with
  | none => rfl
  | some node =>
      cases node with
      | directory => exact absurd hnode hdirectory
      | file content =>
          have hfile := (prepared_extends hprepared).file last content hnode
          obtain rfl := eq_of_prepared ht hprepared hcollapse hfile
          rw [FileTree.present_eq hlast, hfile] at habsent
          cases habsent

/-- **What was unpacked lies where it is looked for**, or it cannot be found, because some double
dot steps back from where there is no directory. -/
theorem unpacked_or_astray {t t' : FileTree} {document : Path} {bytes : List UInt8}
    (ht : t.Consistent) (habsent : t.present document = false)
    (h : placed t document.collapse bytes = .ok t') :
    Unpacked t t' document bytes ∨ ¬ t.StepsBack document ∧ t'.present document = false
      ∧ ∃ e, t'.read document = .error e := by
  obtain ⟨u, hprepared, hwrite⟩ := Outcome.bind_eq_ok_iff.mp h
  have hu : t.Extends u := prepared_extends hprepared
  unfold FileTree.write at hwrite
  split at hwrite
  · cases hwrite
  · rename_i last hlast
    split at hwrite
    · cases hwrite
    · rename_i hdirectory
      obtain rfl := Except.ok.inj hwrite
      have hdirectories := FileTree.nodeAt?_put_directory_iff hdirectory (.bytes bytes)
      cases hplace : (u.put last (.file (.bytes bytes))).place document with
      | error o =>
          -- had the double dots led anywhere before, they would lead there now
          refine .inr ⟨fun hback => ?_, ?_, ⟨o, document⟩, ?_⟩
          · rw [FileTree.place_collapse (hu.stepsBack hback)] at hlast
            have hput : (u.put last (.file (.bytes bytes))).place document = .ok last :=
              FileTree.walk_of_directories (fun place => (hdirectories place).mpr) hlast
            rw [hplace] at hput
            cases hput
          · rw [FileTree.present, FileTree.node?, hplace]
            rfl
          · rw [FileTree.read, hplace]
      | ok reached =>
          have hreached : u.place document = .ok reached :=
            FileTree.walk_of_directories (fun place => (hdirectories place).mp) hplace
          -- the path leads somewhere, and so to where it leads collapsed
          have hcollapse := FileTree.place_collapse (FileTree.stepsBack_of_place hreached)
          obtain rfl : reached = last :=
            Except.ok.inj (hreached.symm.trans (hcollapse.symm.trans hlast))
          have hne : reached ≠ [] := FileTree.ne_nil_of_nodeAt? hdirectory
          have hthere : (u.put reached (.file (.bytes bytes))).nodeAt? reached
              = some (.file (.bytes bytes)) := by
            rw [FileTree.nodeAt?_put hne, if_pos rfl]
          have hfree := nodeAt?_eq_none_of_absent ht habsent hprepared hreached hlast hdirectory
          refine .inl ⟨?_, ?_, (u.put reached (.file (.bytes bytes))).drop reached, ?_, ?_⟩
          · rw [FileTree.present_eq hplace, hthere]
            rfl
          · rw [FileTree.read, hplace]
            dsimp only
            rw [hthere]
          · rw [FileTree.remove, hplace]
            dsimp only
            rw [hthere]
          · exact extends_drop_put hu hreached hne hfree

/-- So it is with what is unpacked from an archive, and with the path of the repository. -/
theorem unpacking_spec {t t' : FileTree} {archive repository document : Path}
    {bytes : List UInt8} (ht : t.Consistent) (harchive : archive.Clean)
    (h : unpacking t archive repository = .ok (document, bytes, t')) :
    Unpacked t t' document bytes
      ∨ placed t document.collapse bytes = .ok t' ∧ ¬ t.StepsBack repository
        ∧ t'.present document = false ∧ ∃ e, t'.read document = .error e := by
  obtain ⟨hpacked, hplaced⟩ := unpacking_eq_ok_iff.mp h
  obtain ⟨habsent, name, hname, rfl⟩ := packedDocument_eq_ok harchive hpacked
  rcases unpacked_or_astray ht habsent hplaced with hunpacked | ⟨hastray, hgone, hread⟩
  · exact .inl hunpacked
  · exact .inr ⟨hplaced, fun hback => hastray (hback.below hname), hgone, hread⟩

end Tablekeep.Repository
