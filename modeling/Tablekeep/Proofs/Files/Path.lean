import Tablekeep.Files.Path
import Tablekeep.Proofs.Text.Words
import Tablekeep.Text.Case

/-!
# Names in paths

A path that was read from a text has no empty names, no single dots and no slashes in its
names. Parts of such paths can be read again as what they are: a name that is put below a
path is one more name of it.
-/

namespace Tablekeep.Files.Path

/-- The text is a name, as it can stand between two slashes. -/
structure IsName (name : String) : Prop where
  slash : '/' ∉ name.toList
  empty : name ≠ ""
  dot : name ≠ "."

/-- Every name of the path is one. -/
def Clean (p : Path) : Prop :=
  ∀ name ∈ p.names, IsName name

theorem not_mem_piecesFrom {mark : Char} {piece cs : List Char} (hpiece : mark ∉ piece) :
    ∀ part ∈ Text.piecesFrom mark piece cs, mark ∉ part := by
  induction cs generalizing piece with
  | nil =>
      intro part hpart
      rw [Text.piecesFrom, List.mem_singleton] at hpart
      rw [hpart, List.mem_reverse]
      exact hpiece
  | cons c cs ih =>
      intro part hpart
      rw [Text.piecesFrom] at hpart
      split at hpart
      · rcases List.mem_cons.mp hpart with rfl | hpart
        · rw [List.mem_reverse]
          exact hpiece
        · exact ih (by simp) part hpart
      · rename_i hc
        exact ih (by simp [Ne.symm hc, hpiece]) part hpart

theorem clean_ofText (s : String) : (ofText s).Clean := by
  intro name hname
  simp only [ofText, List.mem_filter, Bool.and_eq_true, bne_iff_ne] at hname
  obtain ⟨hpiece, hempty, hdot⟩ := hname
  obtain ⟨part, hpart, rfl⟩ := List.mem_map.mp hpiece
  refine ⟨?_, hempty, hdot⟩
  rw [String.toList_ofList]
  exact not_mem_piecesFrom (by simp) part hpart

theorem Clean.append {p q : Path} (hp : p.Clean) (hq : q.Clean) : (p.append q).Clean := by
  unfold Path.append
  split
  · exact hq
  · intro name hname
    rcases List.mem_append.mp hname with hname | hname
    · exact hp name hname
    · exact hq name hname

theorem Clean.child {p : Path} (hp : p.Clean) (s : String) : (p.child s).Clean :=
  hp.append (clean_ofText s)

/-- **A name is read as one name**, that is, as one more name of the path that it is put below. -/
theorem child_of_isName (p : Path) {name : String} (h : IsName name) :
    p.child name = { p with names := p.names ++ [name] } := by
  have hanchor : anchorOf name.toList = .here := by
    unfold anchorOf
    split
    · rename_i hcs
      exact absurd (by rw [hcs]; simp) h.slash
    · rename_i hcs
      exact absurd (by rw [hcs]; simp) h.slash
    · rename_i hcs
      exact absurd (by rw [hcs]; simp) h.slash
    · rfl
  have hpieces : Text.pieces '/' name = [name] := by
    rw [Text.pieces, Text.piecesFrom_of_not_mem h.slash]
    simp
  have htext : ofText name = ⟨.here, [name]⟩ := by
    rw [ofText, hanchor, hpieces, List.filter_cons_of_pos (by simp [h.empty, h.dot]),
      List.filter_nil]
  rw [child, htext, append]
  rfl

/-! ## Suffixes -/

/-- No character comes to a name when its suffix is split off. -/
theorem mem_of_mem_splitSuffix {name : List Char} {c : Char} (h : c ∈ (splitSuffix name).1) :
    c ∈ name := by
  unfold splitSuffix at h
  dsimp only at h
  split at h
  · exact h
  · exact List.mem_of_mem_take h

/-- What has another suffix bears a name that is no double dot, if the suffix is of some length. -/
theorem isName_of_withSuffix? {p q : Path} {suffix : String} (hp : p.Clean)
    (hsuffix : '/' ∉ suffix.toList) (hlength : 3 ≤ suffix.toList.length)
    (h : p.withSuffix? suffix = some q) : IsName q.name ∧ q.name ≠ ".." := by
  unfold withSuffix? at h
  split at h
  · cases h
  · rename_i hname
    have hq : q.name = String.ofList (splitSuffix p.name.toList).1 ++ suffix := by
      obtain rfl := Option.some.inj h
      simp [withName, name]
    have hslash : '/' ∉ p.name.toList := by
      cases hlast : p.names.getLast? with
      | none => simp [name, hlast]
      | some last =>
          have hmem := List.mem_of_getLast? hlast
          simpa [name, hlast] using (hp last hmem).slash
    have hshort : ∀ s : String, s.toList.length < 3 → q.name ≠ s := by
      rintro s hs rfl
      rw [hq, String.toList_append, List.length_append] at hs
      omega
    refine ⟨⟨?_, hshort "" (by decide), hshort "." (by decide)⟩, hshort ".." (by decide)⟩
    rw [hq, String.toList_append, String.toList_ofList]
    intro hmem
    rcases List.mem_append.mp hmem with hmem | hmem
    · exact hslash (mem_of_mem_splitSuffix hmem)
    · exact hsuffix hmem

/-- The text is a suffix: a dot, and characters of which none is a dot. -/
def IsSuffix (suffix : String) : Prop :=
  ∃ ending, suffix.toList = '.' :: ending ∧ ending ≠ [] ∧ '.' ∉ ending

/-- A suffix is split off where it was put. -/
theorem splitSuffix_append {stem suffix : String} (hstem : stem ≠ "") (h : IsSuffix suffix) :
    splitSuffix (stem ++ suffix).toList = (stem.toList, suffix.toList) := by
  obtain ⟨ending, hsuffix, hne, hdot⟩ := h
  have hplain : ∀ c ∈ ending.reverse, decide (c ≠ '.') = true := by
    intro c hc
    rw [List.mem_reverse] at hc
    exact decide_eq_true fun heq => hdot (heq ▸ hc)
  have hending : ((stem ++ suffix).toList.reverse.takeWhile (· ≠ '.')).reverse = ending := by
    rw [String.toList_append, hsuffix, List.reverse_append, List.reverse_cons, List.append_assoc,
      List.takeWhile_append_of_pos hplain]
    simp
  have hlength : (stem ++ suffix).toList.length - ending.length - 1 = stem.toList.length := by
    rw [String.toList_append, hsuffix, List.length_append, List.length_cons]
    omega
  have htake : (stem ++ suffix).toList.take stem.toList.length = stem.toList := by
    rw [String.toList_append, List.take_left]
  have hkept : ¬ (ending.isEmpty || stem.toList.isEmpty) = true := by simp [hne, hstem]
  unfold splitSuffix
  dsimp only
  rw [hending, hlength, htake, if_neg hkept, hsuffix]

theorem name_snoc (p : Path) (name : String) :
    ({ p with names := p.names ++ [name] } : Path).name = name := by
  simp [Path.name]

theorem suffix_snoc (p : Path) {stem suffix : String} (hstem : stem ≠ "") (h : IsSuffix suffix) :
    ({ p with names := p.names ++ [stem ++ suffix] } : Path).suffix = suffix := by
  rw [Path.suffix, name_snoc, splitSuffix_append hstem h, String.ofList_toList]

theorem withSuffix?_snoc (p : Path) {stem suffix : String} (hstem : stem ≠ "") (h : IsSuffix suffix)
    (other : String) :
    ({ p with names := p.names ++ [stem ++ suffix] } : Path).withSuffix? other
      = some { p with names := p.names ++ [stem ++ other] } := by
  have hname : ¬ (stem ++ suffix).isEmpty = true := by simp [hstem]
  rw [withSuffix?, name_snoc, if_neg hname, splitSuffix_append hstem h, String.ofList_toList,
    withName, List.dropLast_concat]

/-! ## Double dots -/

/-- A name that is none stays where it is when double dots are taken back. -/
theorem collapse_snoc (p : Path) {name : String} (hname : name ≠ "..") :
    ({ p with names := p.names ++ [name] } : Path).collapse
      = { p.collapse with names := p.collapse.names ++ [name] } := by
  have hfrom (anchored : Bool) (done names : List String) :
      collapseFrom anchored done (names ++ [name])
        = collapseFrom anchored done names ++ [name] := by
    induction names generalizing done with
    | nil => simp [collapseFrom, hname]
    | cons first names ih =>
        rw [List.cons_append, collapseFrom.eq_def, collapseFrom.eq_def]
        dsimp only
        split
        · split
          · exact ih _
          · split
            · exact ih _
            · exact ih _
        · exact ih _
  have hstart : ({ p with names := p.names ++ [name] } : Path).isAbsolute = p.isAbsolute := rfl
  rw [collapse, collapse, hstart, hfrom]

/-- Double dots stand at the front only. -/
def DotsFirst (names : List String) : Prop :=
  ∃ n plain, names = List.replicate n ".." ++ plain ∧ ".." ∉ plain

namespace DotsFirst

variable {names : List String} {name : String}

theorem nil : DotsFirst [] :=
  ⟨0, [], rfl, List.not_mem_nil⟩

theorem snoc (h : DotsFirst names) (hname : name ≠ "..") : DotsFirst (names ++ [name]) := by
  obtain ⟨n, plain, rfl, hplain⟩ := h
  exact ⟨n, plain ++ [name], List.append_assoc .., by simp [hplain, Ne.symm hname]⟩

/-- With the last name gone, double dots still stand at the front only; if it was one of these,
there was nothing else. -/
theorem cases_snoc (h : DotsFirst (names ++ [name])) :
    DotsFirst names ∧ (name = ".." → ∃ n, names = List.replicate n "..") := by
  obtain ⟨n, plain, heq, hplain⟩ := h
  rcases List.eq_nil_or_concat plain with rfl | ⟨plain, last, rfl⟩
  · cases n with
    | zero => simp at heq
    | succ n =>
        rw [List.append_nil, List.replicate_succ'] at heq
        have hnames : names = List.replicate n ".." := List.append_inj_left' heq rfl
        exact ⟨⟨n, [], by rw [hnames, List.append_nil], hplain⟩, fun _ => ⟨n, hnames⟩⟩
  · rw [List.concat_eq_append] at heq hplain
    rw [← List.append_assoc] at heq
    obtain rfl : name = last := by simpa using List.append_inj_right' heq rfl
    refine ⟨⟨n, plain, List.append_inj_left' heq rfl, fun hmem => ?_⟩, fun hname => ?_⟩
    · exact hplain (List.mem_append_left _ hmem)
    · exact absurd (by simp [hname]) hplain

theorem collapseFrom {anchored : Bool} {done : List String} (h : DotsFirst done.reverse) :
    DotsFirst (Path.collapseFrom anchored done names) := by
  induction names generalizing done with
  | nil => exact h
  | cons name names ih =>
      rw [Path.collapseFrom.eq_def]
      dsimp only
      by_cases hname : name = ".."
      · rw [if_pos hname]
        cases done with
        | nil =>
            dsimp only
            cases anchored with
            | true => exact ih nil
            | false => exact ih ⟨1, [], by simp [hname], List.not_mem_nil⟩
        | cons last before =>
            dsimp only
            rw [List.reverse_cons] at h
            obtain ⟨hbefore, hdots⟩ := h.cases_snoc
            by_cases hlast : last = ".."
            · rw [if_pos hlast]
              obtain ⟨n, hn⟩ := hdots hlast
              refine ih ⟨n + 2, [], ?_, List.not_mem_nil⟩
              rw [List.reverse_cons, List.reverse_cons, hn, hname, hlast, List.replicate_succ',
                List.replicate_succ', List.append_nil]
            · rw [if_neg hlast]
              exact ih hbefore
      · rw [if_neg hname]
        refine ih ?_
        rw [List.reverse_cons]
        exact h.snoc hname

end DotsFirst

theorem dotsFirst_collapse (p : Path) : DotsFirst p.collapse.names := by
  have hnil : DotsFirst ([] : List String).reverse := .nil
  exact hnil.collapseFrom

end Tablekeep.Files.Path
