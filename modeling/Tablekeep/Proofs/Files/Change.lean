import Tablekeep.Proofs.Files.Tree

/-!
# Writing and removing a file

A file is written where its path leads to a place that is no directory, and removed where the path
leads to a file. Neither makes a directory or takes one away, so that every path leads where it led
before: this is `SameDirectories`. A file that is written and removed again leaves nothing behind,
not even the file that it was written over.
-/

namespace Tablekeep.Files.FileTree

variable {t t' u : FileTree} {p : Path} {place : Place}

/-! ## One place -/

theorem put_put (t : FileTree) (place : Place) (a b : Node) :
    (t.put place a).put place b = t.put place b := by
  simp [put, List.filter_filter]

theorem drop_put (t : FileTree) (place : Place) (node : Node) :
    (t.put place node).drop place = t.drop place := by
  simp [put, drop, List.filter_filter]

/-- A file that is put somewhere, and taken away when another one was put. -/
theorem nodeAt?_drop_put_put {first second : Place} (hfirst : first ≠ []) (hsecond : second ≠ [])
    (a b : Node) (other : Place) :
    (((t.put first a).put second b).drop first).nodeAt? other
      = if other = first then none else if other = second then some b else t.nodeAt? other := by
  rw [nodeAt?_drop hfirst]
  split
  · rfl
  · rename_i hother
    rw [nodeAt?_put hsecond, nodeAt?_put hfirst, if_neg hother]

/-- Where there is nothing, nothing is taken away. -/
theorem drop_eq_self (h : t.nodeAt? place = none) : t.drop place = t := by
  have hne : place ≠ [] := ne_nil_of_nodeAt? (by rw [h]; simp)
  rw [nodeAt?_of_ne hne, List.lookup_eq_none_iff] at h
  rw [drop, List.filter_eq_self.mpr]
  intro entry hentry
  exact bne_iff_ne.mpr (Ne.symm (by simpa using h entry hentry))

/-! ## The same directories -/

/-- The same directories are there, and the work is done in the same one. -/
structure SameDirectories (t t' : FileTree) : Prop where
  here : t'.here = t.here
  directory : ∀ place, t'.nodeAt? place = some .directory ↔ t.nodeAt? place = some .directory

namespace SameDirectories

theorem trans {t u v : FileTree} (htu : SameDirectories t u) (huv : SameDirectories u v) :
    SameDirectories t v :=
  ⟨huv.here.trans htu.here, fun place => (huv.directory place).trans (htu.directory place)⟩

/-- A file that is put where there is no directory, -/
theorem put (h : t.nodeAt? place ≠ some .directory) (content : Content) :
    SameDirectories t (t.put place (.file content)) :=
  ⟨rfl, nodeAt?_put_directory_iff h content⟩

/-- or one that is taken away. -/
theorem drop (h : t.nodeAt? place ≠ some .directory) : SameDirectories t (t.drop place) := by
  refine ⟨rfl, fun other => ?_⟩
  rw [nodeAt?_drop (ne_nil_of_nodeAt? h)]
  split
  · rename_i hother
    rw [hother]
    exact iff_of_false (by simp) h
  · rfl

/-- Every path leads where it led. -/
theorem place_eq_ok_iff (h : SameDirectories t t') {last : Place} :
    t'.place p = .ok last ↔ t.place p = .ok last := by
  unfold FileTree.place
  rw [h.here]
  exact ⟨walk_of_directories fun place => (h.directory place).mp,
    walk_of_directories fun place => (h.directory place).mpr⟩

end SameDirectories

/-! ## Files -/

theorem write_eq_ok_iff {content : Content} :
    t.write p content = .ok u ↔ ∃ place, t.place p = .ok place
      ∧ t.nodeAt? place ≠ some .directory ∧ u = t.put place (.file content) := by
  unfold write
  cases t.place p with
  | error o => simp
  | ok place =>
      by_cases h : t.nodeAt? place = some .directory
      · simp [h]
      · simp [h, @eq_comm _ _ u]

theorem remove_eq_ok_iff :
    t.remove p = .ok u ↔ ∃ place content, t.place p = .ok place
      ∧ t.nodeAt? place = some (.file content) ∧ u = t.drop place := by
  unfold remove
  cases t.place p with
  | error o => simp
  | ok place =>
      rcases h : t.nodeAt? place with _ | _ | content
      · simp [h]
      · simp [h]
      · simp [h, @eq_comm _ _ u]

theorem read_eq_ok_iff {content : Content} :
    t.read p = .ok content ↔ ∃ place, t.place p = .ok place
      ∧ t.nodeAt? place = some (.file content) := by
  unfold read
  cases t.place p with
  | error o => simp
  | ok place =>
      rcases h : t.nodeAt? place with _ | _ | other
      · simp [h]
      · simp [h]
      · simp [h]

theorem isFile_iff :
    t.isFile p = true ↔ ∃ place content, t.place p = .ok place
      ∧ t.nodeAt? place = some (.file content) := by
  unfold isFile node?
  cases t.place p with
  | error o => simp
  | ok place =>
      rcases h : t.nodeAt? place with _ | _ | content
      · simp [h]
      · simp [h]
      · simp [h]

/-- A directory that is there is all that is asked for. -/
theorem makeDirectories_eq_self (h : t.isDirectory p = true) : t.makeDirectories p = .ok t := by
  have hmake : ∃ e, t.makeDirectory p = .error e ∧ e.obstacle = .exists := by
    have hnode : t.node? p = some .directory := beq_iff_eq.mp h
    unfold node? at hnode
    unfold makeDirectory
    split at hnode
    · cases hnode
    · rw [hnode]
      exact ⟨_, if_pos rfl, rfl⟩
  obtain ⟨e, herror, hexists⟩ := hmake
  rw [makeDirectories, makeDirectoriesUpTo.eq_def]
  dsimp only
  rw [herror]
  dsimp only
  rw [hexists, if_neg (by decide), if_pos h]

/-! ## All other files -/

/-- From a directory one of the paths leads to the place, given the directories on the way. -/
def Leads (paths : Path → Prop) (here place : Place) : Prop :=
  ∃ (t : FileTree) (p : Path), t.here = here ∧ paths p ∧ t.place p = .ok place

/-- A file is as it was unless one of the paths leads to it. -/
structure Apart (paths : Path → Prop) (t t' : FileTree) : Prop where
  here : t'.here = t.here
  file : ∀ place, ¬ Leads paths t.here place → ∀ content,
    t'.nodeAt? place = some (.file content) ↔ t.nodeAt? place = some (.file content)

namespace Apart

variable {paths : Path → Prop}

theorem refl (t : FileTree) : Apart paths t t :=
  ⟨rfl, fun _ _ _ => Iff.rfl⟩

theorem trans {t u v : FileTree} (htu : Apart paths t u) (huv : Apart paths u v) :
    Apart paths t v := by
  refine ⟨huv.here.trans htu.here, fun place hplace content => ?_⟩
  rw [← htu.file place hplace content]
  exact huv.file place (htu.here ▸ hplace) content

/-- More directories are no matter, -/
theorem of_extends (h : Extends t t') : Apart paths t t' :=
  ⟨h.here, fun place _ content => ⟨h.file place content, h.node place _⟩⟩

/-- and a file may be written where one of the paths leads, -/
theorem write (hp : paths p) {content : Content} (h : t.write p content = .ok u) :
    Apart paths t u := by
  obtain ⟨last, hplace, hfree, rfl⟩ := write_eq_ok_iff.mp h
  refine ⟨rfl, fun place hother content => ?_⟩
  rw [nodeAt?_put (ne_nil_of_nodeAt? hfree), if_neg]
  rintro rfl
  exact hother ⟨t, p, rfl, hp, hplace⟩

/-- or removed. -/
theorem remove (hp : paths p) (h : t.remove p = .ok u) : Apart paths t u := by
  obtain ⟨last, content, hplace, hfile, rfl⟩ := remove_eq_ok_iff.mp h
  refine ⟨rfl, fun place hother content => ?_⟩
  rw [nodeAt?_drop (ne_nil_of_nodeAt? (by rw [hfile]; simp)), if_neg]
  rintro rfl
  exact hother ⟨t, p, rfl, hp, hplace⟩

end Apart

/-! ## What is in a directory -/

/-- A name leads on from where there is a directory. -/
theorem place_snoc_eq_ok_iff {name : String} (hname : name ≠ "..") {last : Place} :
    t.place { p with names := p.names ++ [name] } = .ok last
      ↔ ∃ place, t.place p = .ok place ∧ t.nodeAt? place = some .directory
        ∧ last = place ++ [name] := by
  have hstart : ({ p with names := p.names ++ [name] } : Path).isAbsolute = p.isAbsolute := rfl
  rw [place, place, hstart, walk_append]
  cases t.walk (if p.isAbsolute then [] else t.here) p.names with
  | error o =>
      refine iff_of_false (fun h => by cases h) ?_
      rintro ⟨_, h, -⟩
      cases h
  | ok place =>
      change t.walk place [name] = .ok last ↔ _
      constructor
      · intro h
        have hnode := nodeAt?_of_walk_cons h
        rw [walk_cons place name [] hnode, if_neg hname, walk] at h
        exact ⟨place, rfl, hnode, (Except.ok.inj h).symm⟩
      · rintro ⟨_, hplace, hnode, rfl⟩
        obtain rfl := Except.ok.inj hplace
        rw [walk_cons place name [] hnode, if_neg hname, walk]

/-- Whatever is in a directory is listed. -/
theorem mem_namesIn {name : String} {node : Node} (hplace : t.place p = .ok place)
    (hnode : t.nodeAt? (place ++ [name]) = some node) : name ∈ t.namesIn p := by
  rw [nodeAt?_of_ne (by simp)] at hnode
  obtain ⟨before, after, hnodes, -⟩ := List.lookup_eq_some_iff.mp hnode
  rw [namesIn, hplace, hnodes]
  refine List.mem_filterMap.mpr ⟨(place ++ [name], node), by simp, ?_⟩
  dsimp only
  rw [List.dropLast_concat, if_pos rfl, List.getLast?_concat]

end Tablekeep.Files.FileTree
