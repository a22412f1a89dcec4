import Mathlib.Data.List.Infix
import Tablekeep.Files.Tree
import Tablekeep.Proofs.Outcome

/-!
# What changes in a file tree

A file tree is looked at through `nodeAt?`, and every change is described by it: what is put
at a place is there afterwards, what is dropped is not, and all else stays. From this follows
what matters to work on files. Making directories keeps every node and adds no file, which
is `Extends`; and a walk that has reached a place reaches it still.

A path with double dots may be followed or collapsed first. The two lead to one place if
each double dot steps back from a directory that is there, which is `StepsBack`. Where it
fails, a name that is taken back was never looked at by the collapsed path, and the path
itself leads nowhere.
-/

namespace Tablekeep.Files.FileTree

variable {t t' : FileTree}

/-! ## One node -/

theorem lookup_filter_ne (nodes : List (Place × Node)) (place other : Place) :
    (nodes.filter fun (p, _) => p != place).lookup other
      = if other = place then none else nodes.lookup other := by
  induction nodes with
  | nil => simp
  | cons entry nodes ih =>
      obtain ⟨p, node⟩ := entry
      by_cases hp : p = place
      · subst hp
        rw [List.filter_cons_of_neg (by simp), ih]
        by_cases hother : other = p
        · rw [if_pos hother, if_pos hother]
        · have hne : (other == p) = false := by simpa using hother
          rw [if_neg hother, if_neg hother, List.lookup_cons, hne]
      · rw [List.filter_cons_of_pos (by simpa using hp), List.lookup_cons, List.lookup_cons, ih]
        by_cases hother : other = p
        · subst hother
          simp [hp]
        · have hne : (other == p) = false := by simpa using hother
          rw [hne]

theorem lookup_append (nodes more : List (Place × Node)) (place : Place) :
    (nodes ++ more).lookup place = (nodes.lookup place).or (more.lookup place) := by
  induction nodes with
  | nil => rfl
  | cons entry nodes ih =>
      obtain ⟨p, node⟩ := entry
      rw [List.cons_append, List.lookup_cons, List.lookup_cons]
      split
      · rfl
      · exact ih

theorem nodeAt?_nil : t.nodeAt? [] = some .directory := rfl

theorem nodeAt?_of_ne {place : Place} (h : place ≠ []) :
    t.nodeAt? place = t.nodes.lookup place := by
  rw [nodeAt?, if_neg (by simpa using h)]

theorem nodeAt?_put {place : Place} (h : place ≠ []) (node : Node) (other : Place) :
    (t.put place node).nodeAt? other = if other = place then some node else t.nodeAt? other := by
  by_cases hother : other = []
  · subst hother
    rw [if_neg (Ne.symm h)]
    rfl
  · rw [nodeAt?_of_ne hother, nodeAt?_of_ne hother, put]
    dsimp only
    rw [lookup_append, lookup_filter_ne]
    by_cases heq : other = place
    · simp [heq]
    · have hne : (other == place) = false := by simpa using heq
      rw [if_neg heq, if_neg heq, List.lookup_cons, hne]
      simp

theorem nodeAt?_drop {place : Place} (h : place ≠ []) (other : Place) :
    (t.drop place).nodeAt? other = if other = place then none else t.nodeAt? other := by
  by_cases hother : other = []
  · subst hother
    rw [if_neg (Ne.symm h)]
    rfl
  · rw [nodeAt?_of_ne hother, nodeAt?_of_ne hother, drop]
    exact lookup_filter_ne t.nodes place other

/-- A node that is put where there was none can be dropped again. -/
theorem nodeAt?_drop_put {place : Place} (h : place ≠ []) (hnone : t.nodeAt? place = none)
    (node : Node) (other : Place) :
    ((t.put place node).drop place).nodeAt? other = t.nodeAt? other := by
  rw [nodeAt?_drop h, nodeAt?_put h]
  by_cases hother : other = place
  · rw [if_pos hother, hother, hnone]
  · rw [if_neg hother, if_neg hother]

/-- Where there is no directory there is not the root. -/
theorem ne_nil_of_nodeAt? {place : Place} (h : t.nodeAt? place ≠ some .directory) : place ≠ [] := by
  rintro rfl
  exact h nodeAt?_nil

/-- A file that is put where there is no directory changes nothing about directories. -/
theorem nodeAt?_put_directory_iff {place : Place} (h : t.nodeAt? place ≠ some .directory)
    (content : Content) (other : Place) :
    (t.put place (.file content)).nodeAt? other = some .directory
      ↔ t.nodeAt? other = some .directory := by
  rw [nodeAt?_put (ne_nil_of_nodeAt? h)]
  split
  · rename_i hother
    rw [hother]
    exact iff_of_false (by simp) h
  · rfl

/-! ## More directories -/

/-- Every node is kept, and there are no new files. -/
structure Extends (t t' : FileTree) : Prop where
  here : t'.here = t.here
  node : ∀ place node, t.nodeAt? place = some node → t'.nodeAt? place = some node
  file : ∀ place content, t'.nodeAt? place = some (.file content) →
    t.nodeAt? place = some (.file content)

namespace Extends

theorem refl (t : FileTree) : Extends t t :=
  ⟨rfl, fun _ _ h => h, fun _ _ h => h⟩

theorem trans {t u v : FileTree} (htu : Extends t u) (huv : Extends u v) : Extends t v :=
  ⟨huv.here.trans htu.here, fun place node h => huv.node place node (htu.node place node h),
    fun place content h => htu.file place content (huv.file place content h)⟩

end Extends

theorem makeDirectory_extends {p : Path} (h : t.makeDirectory p = .ok t') : Extends t t' := by
  unfold makeDirectory at h
  split at h
  · cases h
  · rename_i place _
    split at h
    · cases h
    · rename_i hnone
      have hfree : t.nodeAt? place = none := by simpa using hnone
      have hne : place ≠ [] := by
        rintro rfl
        rw [nodeAt?_nil] at hfree
        cases hfree
      cases h
      refine ⟨rfl, fun other node hother => ?_, fun other content hother => ?_⟩
      · rw [nodeAt?_put hne, if_neg]
        · exact hother
        · rintro rfl
          rw [hfree] at hother
          cases hother
      · rw [nodeAt?_put hne] at hother
        split at hother
        · cases hother
        · exact hother

theorem makeDirectoriesUpTo_extends {n : Nat} {p : Path} (h : makeDirectoriesUpTo n t p = .ok t') :
    Extends t t' := by
  induction n generalizing t t' p with
  | zero =>
      rw [makeDirectoriesUpTo] at h
      split at h
      · rename_i hmake
        cases h
        exact makeDirectory_extends hmake
      · split at h
        · cases h
        · split at h
          · cases h
            exact .refl t
          · cases h
  | succ n ih =>
      rw [makeDirectoriesUpTo] at h
      split at h
      · rename_i hmake
        cases h
        exact makeDirectory_extends hmake
      · split at h
        · dsimp only at h
          split at h
          · cases h
          · rename_i u habove
            have hup := ih habove
            split at h
            · rename_i hmake
              cases h
              exact hup.trans (makeDirectory_extends hmake)
            · split at h
              · cases h
                exact hup
              · cases h
        · split at h
          · cases h
            exact .refl t
          · cases h

theorem makeDirectories_extends {p : Path} (h : t.makeDirectories p = .ok t') : Extends t t' :=
  makeDirectoriesUpTo_extends h

/-! ## Walks -/

theorem walk_cons (place : Place) (name : String) (rest : List String)
    (h : t.nodeAt? place = some .directory) :
    t.walk place (name :: rest)
      = t.walk (if name = ".." then place.dropLast else place ++ [name]) rest := by
  rw [walk, h]
  dsimp only
  split <;> rfl

/-- A walk goes through directories. -/
theorem nodeAt?_of_walk_cons {place last : Place} {name : String} {rest : List String}
    (h : t.walk place (name :: rest) = .ok last) : t.nodeAt? place = some .directory := by
  rw [walk] at h
  split at h
  · cases h
  · cases h
  · rename_i hnode
    exact hnode

theorem walk_append (place : Place) (names more : List String) :
    t.walk place (names ++ more) = (t.walk place names).bind fun next => t.walk next more := by
  induction names generalizing place with
  | nil => rfl
  | cons name names ih =>
      rw [List.cons_append, walk, walk]
      split
      · rfl
      · rfl
      · split
        · exact ih _
        · exact ih _

/-- A walk goes on where there are more directories. -/
theorem walk_of_directories
    (h : ∀ place, t.nodeAt? place = some .directory → t'.nodeAt? place = some .directory)
    {place last : Place} {names : List String} (hwalk : t.walk place names = .ok last) :
    t'.walk place names = .ok last := by
  induction names generalizing place with
  | nil => exact hwalk
  | cons name names ih =>
      have hnode := nodeAt?_of_walk_cons hwalk
      rw [walk_cons place name names hnode] at hwalk
      rw [walk_cons place name names (h place hnode)]
      exact ih hwalk

theorem Extends.walk (h : Extends t t') {place last : Place} {names : List String}
    (hwalk : t.walk place names = .ok last) : t'.walk place names = .ok last :=
  walk_of_directories (fun place hnode => h.node place .directory hnode) hwalk

theorem present_eq {p : Path} {last : Place} (h : t.place p = .ok last) :
    t.present p = (t.nodeAt? last).isSome := by
  rw [present, node?, h]

/-- A path that leads to something does so by way of its parent. -/
theorem present_parent {p : Path} {last : Place} {node : Node} (h : t.place p = .ok last)
    (hnode : t.nodeAt? last = some node) : t.present p.parent = true := by
  obtain ⟨anchor, names⟩ := p
  rcases List.eq_nil_or_concat names with rfl | ⟨names, name, rfl⟩
  · have hparent : t.place (⟨anchor, []⟩ : Path).parent = .ok last := h
    rw [present_eq hparent, hnode]
    rfl
  · rw [List.concat_eq_append] at h ⊢
    rw [place, walk_append] at h
    obtain ⟨next, hwalk, hlast⟩ := Outcome.bind_eq_ok_iff.mp h
    have hparent : t.place (⟨anchor, names ++ [name]⟩ : Path).parent = .ok next := by
      rw [Path.parent, List.dropLast_concat]
      exact hwalk
    rw [present_eq hparent, nodeAt?_of_walk_cons hlast]
    rfl

/-! ## Stepping back -/

/-- Each double dot among the names steps back from a directory that is there. -/
def StepsBackFrom (t : FileTree) (place : Place) (names : List String) : Prop :=
  ∀ before after, names = before ++ ".." :: after →
    ∃ last, t.walk place before = .ok last ∧ t.nodeAt? last = some .directory

/-- Each double dot of the path steps back from a directory that is there. -/
def StepsBack (t : FileTree) (p : Path) : Prop :=
  ∀ before after, p.names = before ++ ".." :: after → t.isDirectory ⟨p.anchor, before⟩ = true

theorem StepsBack.from (p : Path) (h : t.StepsBack p) :
    t.StepsBackFrom (if p.isAbsolute then [] else t.here) p.names := by
  intro before after heq
  have hdirectory := h before after heq
  have hstart : (⟨p.anchor, before⟩ : Path).isAbsolute = p.isAbsolute := rfl
  rw [isDirectory, node?, place, hstart] at hdirectory
  split at hdirectory
  · cases hdirectory
  · rename_i last hlast
    exact ⟨last, hlast, by simpa using hdirectory⟩

/-- A name and a double dot after it are as good as nothing, if there is a directory of the name. -/
theorem walk_back {place last : Place} {names : List String} {name : String} (hname : name ≠ "..")
    (hwalk : t.walk place (names ++ [name]) = .ok last) (hlast : t.nodeAt? last = some .directory)
    (rest : List String) :
    t.walk place (names ++ name :: ".." :: rest) = t.walk place (names ++ rest) := by
  rw [walk_append] at hwalk ⊢
  rw [walk_append]
  cases hfirst : t.walk place names with
  | error o => rfl
  | ok next =>
      rw [hfirst] at hwalk
      change t.walk next [name] = .ok last at hwalk
      change t.walk next (name :: ".." :: rest) = t.walk next rest
      have hnext := nodeAt?_of_walk_cons hwalk
      rw [walk_cons next name [] hnext, if_neg hname, walk] at hwalk
      obtain rfl := Except.ok.inj hwalk
      rw [walk_cons next name _ hnext, if_neg hname, walk_cons _ ".." rest hlast, if_pos rfl,
        List.dropLast_concat]

/-- **Collapsing does not lead astray** where every step back is one from a directory. -/
theorem walk_collapseFrom {anchored : Bool} {place : Place} (hplace : anchored = true → place = [])
    (done names : List String) (h : t.StepsBackFrom place (done.reverse ++ names)) :
    t.walk place (Path.collapseFrom anchored done names)
      = t.walk place (done.reverse ++ names) := by
  induction names generalizing done with
  | nil =>
      rw [List.append_nil]
      rfl
  | cons name names ih =>
      have hkeep : done.reverse ++ name :: names = (name :: done).reverse ++ names := by simp
      rw [Path.collapseFrom.eq_def]
      dsimp only
      by_cases hname : name = ".."
      · rw [if_pos hname]
        cases done with
        | nil =>
            dsimp only
            cases anchored with
            | false =>
                rw [hkeep] at h ⊢
                exact ih _ h
            | true =>
                -- above the root is the root
                obtain rfl := hplace rfl
                have hroot : ∀ rest, t.walk [] (".." :: rest) = t.walk [] rest := fun rest => by
                  rw [walk_cons [] ".." rest nodeAt?_nil, if_pos rfl, List.dropLast_nil]
                rw [hname] at h ⊢
                rw [List.reverse_nil, List.nil_append] at h ⊢
                rw [hroot]
                refine ih [] ?_
                intro before after heq
                obtain ⟨last, hlast, hnode⟩ := h (".." :: before) after (by
                  rw [List.cons_append, ← heq]
                  rfl)
                exact ⟨last, (hroot before).symm.trans hlast, hnode⟩
        | cons last before =>
            dsimp only
            by_cases hlast : last = ".."
            · rw [if_pos hlast]
              rw [hkeep] at h ⊢
              exact ih _ h
            · rw [if_neg hlast]
              have hlist : (last :: before).reverse ++ name :: names
                  = before.reverse ++ last :: ".." :: names := by simp [hname]
              rw [hlist] at h ⊢
              obtain ⟨next, hnext, hnode⟩ := h (before.reverse ++ [last]) names (by simp)
              rw [walk_back hlast hnext hnode]
              refine ih before ?_
              intro front after heq
              rcases List.append_eq_append_iff.mp heq with
                ⟨more, hmore, hrest⟩ | ⟨more, hmore, hrest⟩
              · obtain ⟨reached, hreached, hdirectory⟩ :=
                  h (before.reverse ++ last :: ".." :: more) after (by rw [hrest]; simp)
                rw [walk_back hlast hnext hnode] at hreached
                rw [hmore]
                exact ⟨reached, hreached, hdirectory⟩
              · cases more with
                | nil =>
                    rw [List.append_nil] at hmore
                    rw [List.nil_append] at hrest
                    obtain ⟨reached, hreached, hdirectory⟩ :=
                      h (before.reverse ++ last :: ".." :: []) after (by rw [hrest]; simp)
                    rw [walk_back hlast hnext hnode, List.append_nil] at hreached
                    rw [← hmore]
                    exact ⟨reached, hreached, hdirectory⟩
                | cons dots more =>
                    obtain ⟨rfl, -⟩ := List.cons.inj hrest
                    exact h front (more ++ last :: ".." :: names) (by rw [hmore]; simp)
      · rw [if_neg hname]
        rw [hkeep] at h ⊢
        exact ih _ h

theorem place_collapse {p : Path} (h : t.StepsBack p) : t.place p.collapse = t.place p := by
  have hstart : p.collapse.isAbsolute = p.isAbsolute := rfl
  rw [place, place, hstart]
  exact walk_collapseFrom (fun habsolute => if_pos habsolute) [] p.names h.from

theorem Extends.stepsBack (h : Extends t t') {p : Path} (hp : t.StepsBack p) : t'.StepsBack p := by
  intro before after heq
  have hdirectory := hp before after heq
  rw [isDirectory, node?, place] at hdirectory ⊢
  rw [h.here]
  split at hdirectory
  · cases hdirectory
  · rename_i last hlast
    rw [h.walk hlast]
    exact beq_iff_eq.mpr (h.node last .directory (beq_iff_eq.mp hdirectory))

/-- A path that leads to a place does so by directories. -/
theorem stepsBack_of_place {p : Path} {last : Place} (h : t.place p = .ok last) :
    t.StepsBack p := by
  intro before after heq
  have hstart : (⟨p.anchor, before⟩ : Path).isAbsolute = p.isAbsolute := rfl
  rw [place, heq, walk_append] at h
  rw [isDirectory, node?, place, hstart]
  cases hwalk : t.walk (if p.isAbsolute then [] else t.here) before with
  | error o =>
      rw [hwalk] at h
      cases h
  | ok next =>
      rw [hwalk] at h
      change t.walk next (".." :: after) = .ok last at h
      exact beq_iff_eq.mpr (nodeAt?_of_walk_cons h)

theorem StepsBack.below {p : Path} (h : t.StepsBack p) {name : String} (hname : name ≠ "..") :
    t.StepsBack { p with names := p.names ++ [name] } := by
  intro before after heq
  change p.names ++ [name] = before ++ ".." :: after at heq
  rcases List.eq_nil_or_concat after with rfl | ⟨after, last, rfl⟩
  · exact absurd (List.append_inj_right' heq rfl) (by simpa using hname)
  · rw [List.concat_eq_append, ← List.cons_append, ← List.append_assoc] at heq
    exact h before after (List.append_inj_left' heq rfl)

/-! ## Consistent trees -/

/-- Whatever there is, is in a directory, and work is done in one. -/
structure Consistent (t : FileTree) : Prop where
  here : t.nodeAt? t.here = some .directory
  above : ∀ place node, t.nodeAt? place = some node → t.nodeAt? place.dropLast = some .directory

theorem consistent_iff (t : FileTree) :
    t.Consistent ↔ t.nodeAt? t.here = some .directory
      ∧ ∀ entry ∈ t.nodes, t.nodeAt? entry.1.dropLast = some .directory := by
  constructor
  · intro h
    refine ⟨h.here, fun entry hentry => ?_⟩
    by_cases hroot : entry.1 = []
    · rw [hroot]
      rfl
    · have hsome : (t.nodeAt? entry.1).isSome = true := by
        rw [nodeAt?_of_ne hroot]
        exact List.lookup_isSome_iff.mpr ⟨entry, hentry, beq_self_eq_true _⟩
      obtain ⟨node, hnode⟩ := Option.isSome_iff_exists.mp hsome
      exact h.above entry.1 node hnode
  · rintro ⟨hhere, hentries⟩
    refine ⟨hhere, fun place node hnode => ?_⟩
    by_cases hroot : place = []
    · rw [hroot]
      rfl
    · rw [nodeAt?_of_ne hroot] at hnode
      obtain ⟨before, after, hnodes, -⟩ := List.lookup_eq_some_iff.mp hnode
      exact hentries (place, node) (by simp [hnodes])

instance (t : FileTree) : Decidable t.Consistent :=
  decidable_of_iff _ t.consistent_iff.symm

theorem Consistent.directory_above (h : t.Consistent) {place : Place} {node : Node}
    (more : List String) (hmore : more ≠ []) (hnode : t.nodeAt? (place ++ more) = some node) :
    t.nodeAt? place = some .directory := by
  induction more using List.reverseRecOn generalizing node with
  | nil => exact absurd rfl hmore
  | append_singleton more name ih =>
      have hparent := h.above _ node hnode
      rw [← List.append_assoc, List.dropLast_concat] at hparent
      by_cases hnil : more = []
      · rw [hnil, List.append_nil] at hparent
        exact hparent
      · exact ih hnil hparent

/-- From a directory one can always step back, so double dots at the front are no obstacle. -/
theorem Consistent.stepsBackFrom (h : t.Consistent) {place : Place}
    (hplace : t.nodeAt? place = some .directory) (n : Nat) {plain : List String}
    (hplain : ".." ∉ plain) : t.StepsBackFrom place (List.replicate n ".." ++ plain) := by
  induction n generalizing place with
  | zero =>
      intro before after heq
      refine absurd ?_ hplain
      rw [List.replicate_zero, List.nil_append] at heq
      simp [heq]
  | succ n ih =>
      intro before after heq
      rw [List.replicate_succ, List.cons_append] at heq
      cases before with
      | nil => exact ⟨place, rfl, hplace⟩
      | cons name before =>
          obtain ⟨rfl, hrest⟩ := List.cons.inj heq
          rw [walk_cons place ".." before hplace, if_pos rfl]
          exact ih (h.above place .directory hplace) before after hrest

/-- Where no name steps back, a walk only adds names. -/
theorem eq_append_of_walk {place last : Place} {names : List String} (hnames : ".." ∉ names)
    (h : t.walk place names = .ok last) : last = place ++ names := by
  induction names generalizing place with
  | nil =>
      rw [walk] at h
      rw [List.append_nil, Except.ok.inj h]
  | cons name names ih =>
      obtain ⟨hname, hnames⟩ := List.ne_and_not_mem_of_not_mem_cons hnames
      rw [walk_cons place name names (nodeAt?_of_walk_cons h), if_neg (Ne.symm hname)] at h
      rw [ih hnames h, List.append_assoc, List.singleton_append]

theorem StepsBackFrom.tail {place : Place} {name : String} {names : List String}
    (h : t.StepsBackFrom place (name :: names)) (hnode : t.nodeAt? place = some .directory) :
    t.StepsBackFrom (if name = ".." then place.dropLast else place ++ [name]) names := by
  intro before after heq
  obtain ⟨last, hlast, hdirectory⟩ := h (name :: before) after (by rw [heq, List.cons_append])
  rw [walk_cons place name before hnode] at hlast
  exact ⟨last, hlast, hdirectory⟩

/-- What can be reached when there is more, and was there, could be reached before as well. -/
theorem walk_of_node (ht : t.Consistent) {place last : Place} {names : List String} {node : Node}
    (hback : t.StepsBackFrom place names) (hwalk : t'.walk place names = .ok last)
    (hlast : t.nodeAt? last = some node) : t.walk place names = .ok last := by
  induction names generalizing place with
  | nil => exact hwalk
  | cons name names ih =>
      have hnode' := nodeAt?_of_walk_cons hwalk
      by_cases hnode : t.nodeAt? place = some .directory
      · rw [walk_cons place name names hnode'] at hwalk
        rw [walk_cons place name names hnode]
        exact ih (hback.tail hnode) hwalk
      · -- nothing steps back from here on, so the file lies below a place that is no directory
        have hplain : ".." ∉ name :: names := by
          intro hmem
          obtain ⟨before, after, heq⟩ := List.append_of_mem hmem
          obtain ⟨reached, hreached, hdirectory⟩ := hback before after heq
          cases before with
          | nil =>
              rw [walk] at hreached
              rw [← Except.ok.inj hreached] at hdirectory
              exact hnode hdirectory
          | cons first before => exact hnode (nodeAt?_of_walk_cons hreached)
        rw [eq_append_of_walk hplain hwalk] at hlast
        exact absurd (ht.directory_above (name :: names) (List.cons_ne_nil _ _) hlast) hnode

end Tablekeep.Files.FileTree
