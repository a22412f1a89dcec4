import Tablekeep.Proofs.Backup.Elements

/-!
# What is open in a document

A reader has a stack of open elements, and two things are known of it at every point of a
well-formed document. How the open elements stand in each other is `Stacked`, which every step of
the reader keeps. And that an element is open whenever one ends follows from what is still to come:
the rest of a tree ends exactly the elements that are open (`Closing`, `Due`).
-/

namespace Tablekeep.Markup

/-! ## What is still to come -/

/-- The events end so many open elements, and every element that begins in them, and there is
nothing after the last end. -/
inductive Closing : Nat → List Event → Prop
  | nothing : Closing 0 []
  | start {n : Nat} {es : List Event} (tag : String) :
      Closing (n + 2) es → Closing (n + 1) (.start tag :: es)
  | text {n : Nat} {es : List Event} (s : String) :
      Closing (n + 1) es → Closing (n + 1) (.text s :: es)
  | finish {n : Nat} {es : List Event} : Closing n es → Closing (n + 1) (.finish :: es)

/-- Content leaves as many elements open as there were. -/
theorem Content.closing (c : Content) {n : Nat} {es : List Event} (h : Closing (n + 1) es) :
    Closing (n + 1) (c.events ++ es) := by
  induction c generalizing n es with
  | empty => exact h
  | text s rest ih => exact .text s (ih h)
  | element tag inner rest ihInner ihRest =>
      rw [events, List.cons_append, List.append_assoc, List.cons_append]
      exact .start tag (ihInner (.finish (ihRest h)))

end Tablekeep.Markup

namespace Tablekeep.Backup

open Markup

/-! ## Stacks of the reader -/

/-- The cells have the names of columns of the table that are no large objects. -/
def CellsOf (t : Table) (cells : List (String × String)) : Prop :=
  ∀ p ∈ cells, ∃ c ∈ t.columns, c.isBlob = false ∧ c.name = p.1

/-- Where rows of the table may begin: right under the database, or in a wrapper of the table. -/
inductive HoldsRows (t : Table) : List Frame → Prop
  | bare (tag text : String) : HoldsRows t [⟨tag, .database, text⟩]
  | wrapped (tag text rootTag rootText : String) :
      HoldsRows t [⟨tag, .wrapper t, text⟩, ⟨rootTag, .database, rootText⟩]

/-- How the open elements stand in each other, innermost first. -/
inductive Stacked : List Frame → Prop
  | nothing : Stacked []
  | database (tag text : String) : Stacked [⟨tag, .database, text⟩]
  | wrapper (tag text rootTag rootText : String) (t : Table) :
      Stacked [⟨tag, .wrapper t, text⟩, ⟨rootTag, .database, rootText⟩]
  | row (tag text : String) {t : Table} {cells : List (String × String)} {outer : List Frame} :
      CellsOf t cells → HoldsRows t outer → Stacked (⟨tag, .row t cells, text⟩ :: outer)
  | cell (tag text rowTag rowText : String) {t : Table} {c : Column}
      {cells : List (String × String)} {outer : List Frame} :
      c ∈ t.columns → c.isBlob = false → cells.lookup c.name = none → CellsOf t cells →
      HoldsRows t outer →
      Stacked (⟨tag, .cell t c, text⟩ :: ⟨rowTag, .row t cells, rowText⟩ :: outer)

theorem HoldsRows.stacked {t : Table} {outer : List Frame} (h : HoldsRows t outer) :
    Stacked outer := by
  cases h with
  | bare tag text => exact .database tag text
  | wrapped tag text rootTag rootText => exact .wrapper tag text rootTag rootText t

variable {s s' : ReadState} {item : Option ReadItem} {es : List Event}

namespace Reader

variable {r : Reader}

theorem start_stacked {tag : String} (h : r.start s tag = .ok (s', item))
    (hs : Stacked s.frames) : Stacked s'.frames := by
  unfold start at h
  split at h
  · split at h
    · cases h
    · split at h
      · cases h
      · rename_i role hrole
        cases h
        unfold rootRole at hrole
        split at hrole <;> cases hrole
        exact .database tag ""
  · rename_i parent outer hframes
    rw [hframes] at hs
    split at h
    · cases h
    · split at h
      · cases h
      · rename_i role hrole
        cases h
        unfold roleIn at hrole
        cases hs with
        | database rootTag rootText =>
            have htop : r.topRole tag = .ok role := Outcome.mapError_eq_ok_iff.mp hrole
            rcases topRole_mem r htop with ⟨t, rfl, -⟩ | ⟨t, rfl, -⟩
            · exact .wrapper tag "" rootTag "" t
            · exact .row tag "" (List.forall_mem_nil _) (.bare rootTag "")
        | wrapper wrapperTag text rootTag rootText t =>
            dsimp only at hrole
            split at hrole <;> cases hrole
            exact .row tag "" (List.forall_mem_nil _) (.wrapped wrapperTag "" rootTag rootText)
        | row rowTag text hcells houter =>
            obtain ⟨c, rfl, hc, hblob, hfresh⟩ := cellRole_cases hrole
            exact .cell tag "" rowTag "" (List.mem_of_find?_eq_some hc) hblob hfresh hcells houter
        | cell => cases hrole

theorem characters_stacked {text : String} (hs : Stacked s.frames) :
    Stacked (characters s text).frames := by
  unfold characters
  split
  · exact hs
  · rename_i f outer hframes
    rw [hframes] at hs
    cases hs with
    | database tag _ => exact .database tag _
    | wrapper tag _ rootTag rootText t => exact .wrapper tag _ rootTag rootText t
    | row tag _ hcells houter => exact .row tag _ hcells houter
    | cell tag _ rowTag rowText hc hblob hfresh hcells houter =>
        exact .cell tag _ rowTag rowText hc hblob hfresh hcells houter

theorem finish_stacked (h : r.finish s = .ok (s', item)) (hs : Stacked s.frames) :
    Stacked s'.frames := by
  unfold finish at h
  split at h
  · cases h
  · rename_i f outer hframes
    rw [hframes] at hs
    cases hs with
    | database tag text =>
        dsimp only at h
        split at h
        · cases h
        · cases h
          exact .nothing
    | wrapper tag text rootTag rootText t =>
        dsimp only at h
        split at h
        · cases h
        · cases h
          exact .database rootTag rootText
    | row tag text hcells houter =>
        dsimp only at h
        split at h
        · cases h
        · obtain ⟨row, -, heq⟩ := Outcome.map_eq_ok_iff.mp h
          cases heq
          exact houter.stacked
    | cell tag text rowTag rowText hc hblob hfresh hcells houter =>
        cases h
        exact .row rowTag rowText (List.forall_mem_cons.mpr ⟨⟨_, hc, hblob, rfl⟩, hcells⟩) houter

/-- **Every step keeps the stack in shape.** -/
theorem step_stacked {e : Event} (h : r.step s e = .ok (s', item)) (hs : Stacked s.frames) :
    Stacked s'.frames := by
  cases e with
  | start tag =>
      rw [step] at h
      exact start_stacked h hs
  | text text =>
      cases h
      exact characters_stacked hs
  | finish =>
      rw [step] at h
      exact finish_stacked h hs

/-! ## What is due -/

/-- The events are what is still to come of a document after those that have led to the state. -/
inductive Due : ReadState → List Event → Prop
  | whole (root : Element) : Due .initial root.events
  | rest {frames : List Frame} {es : List Event} : Closing frames.length es → Due ⟨frames, true⟩ es

theorem start_frames {tag : String} (h : r.start s tag = .ok (s', item)) :
    s'.frames.length = s.frames.length + 1 ∧ s'.started = true := by
  unfold start at h
  split at h
  · rename_i hframes
    rw [hframes]
    split at h
    · cases h
    · split at h
      · cases h
      · cases h
        exact ⟨rfl, rfl⟩
  · rename_i parent outer hframes
    rw [hframes]
    split at h
    · cases h
    · split at h
      · cases h
      · cases h
        exact ⟨rfl, rfl⟩

theorem characters_frames (s : ReadState) (text : String) :
    (characters s text).frames.length = s.frames.length
      ∧ (characters s text).started = s.started := by
  unfold characters
  split
  · exact ⟨rfl, rfl⟩
  · rename_i f outer hframes
    rw [hframes]
    exact ⟨rfl, rfl⟩

theorem finish_frames (h : r.finish s = .ok (s', item)) :
    s.frames.length = s'.frames.length + 1 ∧ s'.started = s.started := by
  unfold finish at h
  split at h
  · cases h
  · rename_i f outer hframes
    rw [hframes]
    split at h
    · split at h
      · cases h
        exact ⟨rfl, rfl⟩
      · cases h
    · split at h
      · cases h
      · split at h
        · obtain ⟨row, -, heq⟩ := Outcome.map_eq_ok_iff.mp h
          cases heq
          exact ⟨rfl, rfl⟩
        · cases h
          exact ⟨rfl, rfl⟩

/-- **Every step leaves the rest of the document due.** -/
theorem step_due {e : Event} (h : r.step s e = .ok (s', item)) (hdue : Due s (e :: es)) :
    Due s' es := by
  have key (hclosing : Closing s'.frames.length es) (hstarted : s'.started = true) :
      Due s' es := by
    obtain ⟨frames, started⟩ := s'
    obtain rfl : started = true := hstarted
    exact .rest hclosing
  generalize hall : e :: es = all at hdue
  cases hdue with
  | whole root =>
      -- the first event is the start of the outermost element
      rw [Element.events] at hall
      cases hall
      rw [step] at h
      obtain ⟨hlength, hstarted⟩ := start_frames h
      refine key ?_ hstarted
      rw [hlength]
      exact root.content.closing (.finish .nothing)
  | @rest frames _ hclosing =>
      subst hall
      generalize hn : frames.length = n at hclosing
      cases hclosing with
      | start tag hclosing =>
          rw [step] at h
          obtain ⟨hlength, hstarted⟩ := start_frames h
          refine key ?_ hstarted
          rw [hlength, hn]
          exact hclosing
      | text text hclosing =>
          cases h
          obtain ⟨hlength, hstarted⟩ := characters_frames ⟨frames, true⟩ text
          refine key ?_ hstarted
          rw [hlength, hn]
          exact hclosing
      | finish hclosing =>
          rw [step] at h
          obtain ⟨hlength, hstarted⟩ := finish_frames h
          refine key ?_ hstarted
          obtain rfl := Nat.succ.inj (hlength.symm.trans hn)
          exact hclosing

/-- Nothing has begun when the outermost element begins. -/
theorem Due.started_of_start {tag : String} (h : Due s (.start tag :: es))
    (hframes : s.frames = []) : s.started ≠ true := by
  generalize hall : Event.start tag :: es = all at h
  cases h with
  | whole root => nofun
  | rest hclosing =>
      subst hall
      obtain rfl := hframes
      cases hclosing

/-- An element is open when one ends. -/
theorem Due.open_of_finish (h : Due s (.finish :: es)) : s.frames ≠ [] := by
  generalize hall : Event.finish :: es = all at h
  cases h with
  | whole root => cases hall
  | rest hclosing =>
      subst hall
      rintro rfl
      cases hclosing

end Reader

end Tablekeep.Backup
