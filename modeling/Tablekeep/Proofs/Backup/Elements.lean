import Tablekeep.Proofs.Backup.Descent
import Tablekeep.Proofs.Definition.Validity
import Tablekeep.Proofs.Outcome

/-!
# The elements that rows come from

A row is told when its element ends, and its cells are those that began and ended in the element.
So every row that is told has its element in the document, even if the document is no backup in the
end. What is before the element does not matter, nor what comes after it.

The invariant of the reader has two parts. Every open element that belongs to a table belongs to one
of the database (`ReadState.Placed`). And if a row is the innermost of them, the events since it
began are those of its cells, and if a cell is, all events since that are texts (`Reached`).
-/

namespace Tablekeep.Backup

open Markup

/-! ## Rows in a document -/

/-- A tag in a row names a column that is no large object and has no cell yet. -/
structure NamesNew (t : Table) (cells : List (Column × String)) (tag : String) (c : Column) :
    Prop where
  named : t.column? tag = some c
  kept : c.isBlob = false
  fresh : ∀ p ∈ cells, p.1.name ≠ c.name

/-- The events between the tags of a row tell these cells, the latest first: each is an element that
names a column of its own and holds nothing but text. -/
inductive CellEvents (t : Table) : List Event → List (Column × String) → Prop
  | nil : CellEvents t [] []
  | text {es : List Event} {cells : List (Column × String)} (s : String) :
      CellEvents t es cells → CellEvents t (es ++ [.text s]) cells
  | cell {es : List Event} {cells : List (Column × String)} {tag : String} {c : Column}
      (texts : List String) : CellEvents t es cells → NamesNew t cells tag c →
      CellEvents t (es ++ .start tag :: (texts.map .text ++ [.finish]))
        ((c, String.join texts) :: cells)

/-- A row of the table with these cells stands among the events. -/
def RowStands (es : List Event) (t : Table) (cells : List (Column × String)) : Prop :=
  ∃ before tag inner after, es = before ++ .start tag :: (inner ++ .finish :: after)
    ∧ Text.sameName tag t.name = true ∧ CellEvents t inner cells

/-- The cells by the names of their columns. -/
def byName (cells : List (Column × String)) : List (String × String) :=
  cells.map fun p => (p.1.name, p.2)

theorem RowStands.append {es : List Event} {t : Table} {cells : List (Column × String)}
    (h : RowStands es t cells) (more : List Event) : RowStands (es ++ more) t cells := by
  obtain ⟨before, tag, inner, after, rfl, htag, hcells⟩ := h
  exact ⟨before, tag, inner, after ++ more, by simp, htag, hcells⟩

theorem lookup_byName_eq_none_iff {cells : List (Column × String)} {name : String} :
    (byName cells).lookup name = none ↔ ∀ p ∈ cells, p.1.name ≠ name := by
  rw [List.lookup_eq_none_iff, byName, List.forall_mem_map]
  simp only [bne_iff_ne, ne_comm]

/-- A cell is a selected column, and is the one that is found under its name. -/
theorem CellEvents.mem {t : Table} {es : List Event} {cells : List (Column × String)}
    (h : CellEvents t es cells) :
    ∀ p ∈ cells, p.1 ∈ t.selected ∧ (byName cells).lookup p.1.name = some p.2 := by
  induction h with
  | nil => simp
  | text _ _ ih => exact ih
  | @cell es cells tag c texts _ hnew ih =>
      refine List.forall_mem_cons.mpr ⟨⟨?_, ?_⟩, fun p hp => ⟨(ih p hp).1, ?_⟩⟩
      · exact Table.mem_selected.mpr ⟨List.mem_of_find?_eq_some hnew.named, hnew.kept⟩
      · simp [byName]
      · have hne : (p.1.name == c.name) = false := beq_eq_false_iff_ne.mpr (hnew.fresh p hp)
        rw [byName, List.map_cons, List.lookup_cons, hne]
        exact (ih p hp).2

theorem RowStands.mem {es : List Event} {t : Table} {cells : List (Column × String)}
    (h : RowStands es t cells) :
    ∀ p ∈ cells, p.1 ∈ t.selected ∧ (byName cells).lookup p.1.name = some p.2 := by
  obtain ⟨before, tag, inner, after, -, -, hcells⟩ := h
  exact hcells.mem

/-! ## Open elements -/

/-- Every open element that belongs to a table belongs to one of the database. -/
def ReadState.Placed (db : Database) (s : ReadState) : Prop :=
  ∀ f ∈ s.frames, ∀ t, f.role.table? = some t → t ∈ db.tables

/-- Neither a row nor a cell. -/
def Frame.IsOuter (f : Frame) : Prop :=
  f.role = .database ∨ ∃ t, f.role = .wrapper t

/-- A row of the table has begun with the tag and has told these cells, and nothing else is open in
it. -/
def RowOpen (es : List Event) (tag : String) (t : Table) (cells : List (Column × String)) : Prop :=
  ∃ before inner, es = before ++ .start tag :: inner ∧ Text.sameName tag t.name = true
    ∧ CellEvents t inner cells

/-- What the events so far say about the open elements. -/
inductive Reached (es : List Event) : List Frame → Prop
  | outside {fs : List Frame} : (∀ f ∈ fs, f.IsOuter) → Reached es fs
  | row {tag text : String} {t : Table} {cells : List (Column × String)} {fs : List Frame} :
      RowOpen es tag t cells → (∀ f ∈ fs, f.IsOuter) →
      Reached es (⟨tag, .row t (byName cells), text⟩ :: fs)
  | cell {before : List Event} {tag cellTag text : String} {t : Table} {c : Column}
      {cells : List (Column × String)} (texts : List String) {fs : List Frame} :
      RowOpen before tag t cells → NamesNew t cells cellTag c →
      es = before ++ .start cellTag :: texts.map .text → (∀ f ∈ fs, f.IsOuter) →
      Reached es
        (⟨cellTag, .cell t c, String.join texts⟩ :: ⟨tag, .row t (byName cells), text⟩ :: fs)

section RowOpen

variable {es : List Event} {tag : String} {t : Table} {cells : List (Column × String)}

theorem RowOpen.text (h : RowOpen es tag t cells) (s : String) :
    RowOpen (es ++ [.text s]) tag t cells := by
  obtain ⟨before, inner, rfl, htag, hcells⟩ := h
  exact ⟨before, inner ++ [.text s], by simp, htag, .text s hcells⟩

theorem RowOpen.cell (h : RowOpen es tag t cells) {cellTag : String} {c : Column}
    (hnew : NamesNew t cells cellTag c) (texts : List String) :
    RowOpen (es ++ .start cellTag :: (texts.map .text ++ [.finish])) tag t
      ((c, String.join texts) :: cells) := by
  obtain ⟨before, inner, rfl, htag, hcells⟩ := h
  exact ⟨before, _, by simp, htag, .cell texts hcells hnew⟩

theorem RowOpen.finish (h : RowOpen es tag t cells) : RowStands (es ++ [.finish]) t cells := by
  obtain ⟨before, inner, rfl, htag, hcells⟩ := h
  exact ⟨before, tag, inner, [], by simp, htag, hcells⟩

end RowOpen

namespace Reader

variable {r : Reader} {s s' : ReadState} {item : Option ReadItem} {es : List Event}

/-! ### Tables -/

/-- An element belongs to the table of the element around it, or to one that was looked up. -/
theorem roleIn_table {parent : Frame} {tag : String} {role : Role}
    (h : r.roleIn parent tag = .ok role)
    (hparent : ∀ t, parent.role.table? = some t → t ∈ r.database.tables) :
    ∀ t, role.table? = some t → t ∈ r.database.tables := by
  unfold roleIn at h
  split at h
  · rcases topRole_mem r (Outcome.mapError_eq_ok_iff.mp h) with ⟨u, rfl, hu⟩ | ⟨u, rfl, hu⟩
    · rintro t ⟨⟩
      exact hu
    · rintro t ⟨⟩
      exact hu
  · rename_i u hrole
    split at h
    · cases h
      rw [hrole] at hparent
      exact hparent
    · cases h
  · rename_i u cells hrole
    unfold cellRole at h
    repeat' split at h
    all_goals cases h
    rw [hrole] at hparent
    exact hparent
  · cases h

theorem start_placed {tag : String} (h : r.start s tag = .ok (s', item))
    (hs : s.Placed r.database) :
    s'.Placed r.database ∧ ∀ ins, item ≠ some (.row ins) := by
  unfold start at h
  split at h
  · split at h
    · cases h
    · split at h
      · cases h
      · rename_i role hrole
        cases h
        unfold rootRole at hrole
        split at hrole <;> cases hrole
        exact ⟨by simp [ReadState.Placed, Role.table?], by simp⟩
  · rename_i parent outer hframes
    rw [ReadState.Placed, hframes] at hs
    obtain ⟨hparent, houter⟩ := List.forall_mem_cons.mp hs
    split at h
    · cases h
    · split at h
      · cases h
      · rename_i role hrole
        cases h
        refine ⟨?_, ?_⟩
        · refine List.forall_mem_cons.mpr ⟨roleIn_table hrole hparent, ?_⟩
          exact List.forall_mem_cons.mpr ⟨hparent, houter⟩
        · cases role <;> simp [announced]

theorem characters_placed {text : String} (hs : s.Placed r.database) :
    (characters s text).Placed r.database := by
  unfold characters
  split
  · exact hs
  · rename_i f outer hframes
    rw [ReadState.Placed, hframes] at hs
    obtain ⟨hf, houter⟩ := List.forall_mem_cons.mp hs
    exact List.forall_mem_cons.mpr ⟨hf, houter⟩

theorem finish_placed (h : r.finish s = .ok (s', item)) (hs : s.Placed r.database) :
    s'.Placed r.database := by
  unfold finish at h
  split at h
  · cases h
  · rename_i f outer hframes
    rw [ReadState.Placed, hframes] at hs
    obtain ⟨-, houter⟩ := List.forall_mem_cons.mp hs
    split at h
    · -- a cell ends: its row is still open and keeps its table
      split at h
      · cases h
        obtain ⟨hrow, houter⟩ := List.forall_mem_cons.mp houter
        exact List.forall_mem_cons.mpr ⟨hrow, houter⟩
      · cases h
    · split at h
      · cases h
      · split at h
        · obtain ⟨ins, -, heq⟩ := Outcome.map_eq_ok_iff.mp h
          cases heq
          exact houter
        · cases h
          exact houter

/-- Every step keeps elements within the database. -/
theorem step_placed {e : Event} (h : r.step s e = .ok (s', item)) (hs : s.Placed r.database) :
    s'.Placed r.database := by
  cases e with
  | start tag =>
      rw [step] at h
      exact (start_placed h hs).1
  | text text =>
      cases h
      exact characters_placed hs
  | finish => exact finish_placed h hs

/-! ### Rows and cells -/

/-- In an element that is neither a row nor a cell there are wrappers and rows. -/
theorem roleIn_outer {parent : Frame} {tag : String} {role : Role} (hparent : parent.IsOuter)
    (h : r.roleIn parent tag = .ok role) :
    (∃ t, role = .wrapper t) ∨ ∃ t, role = .row t [] ∧ Text.sameName tag t.name = true := by
  unfold roleIn at h
  obtain hrole | ⟨t, hrole⟩ := hparent
  · rw [hrole] at h
    have htop : r.topRole tag = .ok role := Outcome.mapError_eq_ok_iff.mp h
    unfold topRole at htop
    split at htop
    · cases htop
      exact .inl ⟨_, rfl⟩
    · split at htop
      · rename_i t ht
        cases htop
        have hname : Text.sameName t.name tag = true := by simpa using List.find?_some ht
        exact .inr ⟨t, rfl, Text.sameName_symm hname⟩
      · cases htop
  · rw [hrole] at h
    dsimp only at h
    split at h
    · rename_i hname
      cases h
      exact .inr ⟨t, rfl, hname⟩
    · cases h

/-- In a row there are cells, each with a column that is no large object and has no cell yet. -/
theorem cellRole_cases {t : Table} {cells : List (String × String)} {tag : String} {role : Role}
    (h : cellRole t cells tag = .ok role) :
    ∃ c, role = .cell t c ∧ t.column? tag = some c ∧ c.isBlob = false
      ∧ cells.lookup c.name = none := by
  unfold cellRole at h
  split at h
  · cases h
  · rename_i c hc
    split at h
    · cases h
    · rename_i hblob
      split at h
      · cases h
      · rename_i hfresh
        cases h
        rw [Bool.not_eq_true, Option.isSome_eq_false_iff, Option.isNone_iff_eq_none] at hfresh
        exact ⟨c, rfl, hc, by simpa using hblob, hfresh⟩

theorem cellRole_eq_ok {t : Table} {cells : List (Column × String)} {tag : String} {role : Role}
    (h : cellRole t (byName cells) tag = .ok role) :
    ∃ c, role = .cell t c ∧ NamesNew t cells tag c := by
  obtain ⟨c, hrole, hc, hblob, hfresh⟩ := cellRole_cases h
  exact ⟨c, hrole, hc, hblob, lookup_byName_eq_none_iff.mp hfresh⟩

theorem start_reached {tag : String} (h : r.start s tag = .ok (s', item))
    (hs : Reached es s.frames) : Reached (es ++ [.start tag]) s'.frames := by
  unfold start at h
  split at h
  · split at h
    · cases h
    · split at h
      · cases h
      · rename_i role hrole
        cases h
        unfold rootRole at hrole
        split at hrole <;> cases hrole
        exact .outside (List.forall_mem_singleton.mpr (.inl rfl))
  · rename_i parent fs hframes
    rw [hframes] at hs
    split at h
    · cases h
    · split at h
      · cases h
      · rename_i role hrole
        cases h
        cases hs with
        | outside hall =>
            obtain ⟨hparent, houter⟩ := List.forall_mem_cons.mp hall
            have hrest : ∀ f ∈ { parent with text := "" } :: fs, f.IsOuter :=
              List.forall_mem_cons.mpr ⟨hparent, houter⟩
            obtain ⟨t, rfl⟩ | ⟨t, rfl, hname⟩ := roleIn_outer hparent hrole
            · exact .outside (List.forall_mem_cons.mpr ⟨.inr ⟨t, rfl⟩, hrest⟩)
            · have hopen : RowOpen (es ++ [.start tag]) tag t [] := ⟨es, [], rfl, hname, .nil⟩
              exact .row hopen hrest
        | row hopen houter =>
            obtain ⟨c, rfl, hnew⟩ := cellRole_eq_ok hrole
            exact .cell [] hopen hnew rfl houter
        | cell => cases hrole

theorem characters_reached {text : String} (hs : Reached es s.frames) :
    Reached (es ++ [.text text]) (characters s text).frames := by
  unfold characters
  split
  · rename_i hframes
    rw [hframes]
    exact .outside (by simp)
  · rename_i f fs hframes
    rw [hframes] at hs
    cases hs with
    | outside hall =>
        obtain ⟨hf, houter⟩ := List.forall_mem_cons.mp hall
        exact .outside (List.forall_mem_cons.mpr ⟨hf, houter⟩)
    | row hopen houter => exact .row (hopen.text text) houter
    | cell texts hopen hnew hes houter =>
        have hjoin : String.join texts ++ text = String.join (texts ++ [text]) := by
          simp [String.join_append]
        dsimp only
        rw [hjoin]
        exact .cell (texts ++ [text]) hopen hnew (by simp [hes]) houter

/-- The row comes from an element among the events. -/
def RestoresFrom (r : Reader) (es : List Event) (ins : RowInsert) : Prop :=
  ∃ t ∈ r.database.tables, ∃ cells, RowStands es t cells
    ∧ rowInsert r.zone t (byName cells) = .ok ins

theorem finish_reached (h : r.finish s = .ok (s', item)) (hs : Reached es s.frames)
    (hplaced : s.Placed r.database) :
    Reached (es ++ [.finish]) s'.frames
      ∧ ∀ ins, item = some (.row ins) → r.RestoresFrom (es ++ [.finish]) ins := by
  unfold finish at h
  split at h
  · cases h
  · rename_i f fs hframes
    rw [ReadState.Placed, hframes] at hplaced
    rw [hframes] at hs
    cases hs with
    | outside hall =>
        obtain ⟨hf, houter⟩ := List.forall_mem_cons.mp hall
        have hpop : s'.frames = fs ∧ item = none := by
          obtain hrole | ⟨t, hrole⟩ := hf
          · rw [hrole] at h
            dsimp only at h
            split at h
            · cases h
            · cases h
              exact ⟨rfl, rfl⟩
          · rw [hrole] at h
            dsimp only at h
            split at h
            · cases h
            · cases h
              exact ⟨rfl, rfl⟩
        rw [hpop.1, hpop.2]
        exact ⟨.outside houter, by simp⟩
    | @row tag text t cells _ hopen houter =>
        dsimp only at h
        split at h
        · cases h
        · obtain ⟨ins, hins, heq⟩ := Outcome.map_eq_ok_iff.mp h
          cases heq
          refine ⟨.outside houter, ?_⟩
          rintro _ ⟨⟩
          have ht : t ∈ r.database.tables := (List.forall_mem_cons.mp hplaced).1 t rfl
          exact ⟨t, ht, cells, hopen.finish, hins⟩
    | cell texts hopen hnew hes houter =>
        cases h
        have hrow := hopen.cell hnew texts
        rw [← List.cons_append, ← List.append_assoc, ← hes] at hrow
        exact ⟨.row hrow houter, by simp⟩

/-- **Every step keeps what the events say about the open elements**, and a row that it tells has
come from an element among them. -/
theorem step_reached {e : Event} (h : r.step s e = .ok (s', item)) (hs : Reached es s.frames)
    (hplaced : s.Placed r.database) :
    Reached (es ++ [e]) s'.frames
      ∧ ∀ ins, item = some (.row ins) → r.RestoresFrom (es ++ [e]) ins := by
  cases e with
  | start tag =>
      rw [step] at h
      exact ⟨start_reached h hs, fun ins hrow => absurd hrow ((start_placed h hplaced).2 ins)⟩
  | text text =>
      cases h
      exact ⟨characters_reached hs, by simp⟩
  | finish => exact finish_reached h hs hplaced

theorem RestoresFrom.append {ins : RowInsert} (h : r.RestoresFrom es ins) (more : List Event) :
    r.RestoresFrom (es ++ more) ins := by
  obtain ⟨t, ht, cells, hstands, hins⟩ := h
  exact ⟨t, ht, cells, hstands.append more, hins⟩

/-- So does every run. -/
theorem steps_restoresFrom {later : List Event} (hs : Reached es s.frames)
    (hplaced : s.Placed r.database) :
    ∀ ins, ReadItem.row ins ∈ (r.steps s later).1 → r.RestoresFrom (es ++ later) ins := by
  induction later generalizing s es with
  | nil => simp [steps]
  | cons e later ih =>
      intro ins hmem
      rw [steps] at hmem
      split at hmem
      · simp at hmem
      · rename_i s' item hstep
        obtain ⟨hreached, hitem⟩ := step_reached hstep hs hplaced
        have hsplit : es ++ e :: later = (es ++ [e]) ++ later := by simp
        rw [hsplit]
        rcases List.mem_append.mp hmem with hnow | hlater
        · exact (hitem ins (by simpa using hnow)).append later
        · exact ih hreached (step_placed hstep hplaced) ins hlater

/-! ## Documents -/

/-- The rows of a document are those that were told on the way. -/
theorem mem_readEvents_rows_iff {reading : Markup.Reading} {ins : RowInsert} :
    ins ∈ (r.readEvents reading).rows
      ↔ ReadItem.row ins ∈ (r.steps .initial reading.events).1 := by
  have hitems : (r.readEvents reading).items = (r.steps .initial reading.events).1 := by
    unfold readEvents
    split
    · rename_i hsteps
      rw [hsteps]
    · rename_i hsteps
      rw [hsteps]
      split <;> try split
      all_goals rfl
  rw [ReadResult.rows, List.mem_filterMap, hitems]
  constructor
  · rintro ⟨told, htold, hrow⟩
    cases told with
    | table name => cases hrow
    | row row =>
        cases hrow
        exact htold
  · exact fun htold => ⟨_, htold, rfl⟩

theorem readEvents_restoresFrom {reading : Reading} :
    ∀ ins ∈ (r.readEvents reading).rows, r.RestoresFrom reading.events ins := by
  intro ins hmem
  have hinitial : Reached [] ReadState.initial.frames := .outside (by simp [ReadState.initial])
  exact steps_restoresFrom hinitial (by simp [ReadState.Placed, ReadState.initial]) ins
    (mem_readEvents_rows_iff.mp hmem)

/-- **Every row that is told comes from an element of the document**, and is the row of its
cells. -/
theorem read_restoresFrom {bytes : List UInt8} {ins : RowInsert}
    (h : ins ∈ (r.read bytes).rows) :
    ∃ reading, Markup.read bytes = .ok reading ∧ r.RestoresFrom reading.events ins := by
  unfold read at h
  split at h
  · simp [ReadResult.rows] at h
  · rename_i reading hreading
    exact ⟨reading, hreading, readEvents_restoresFrom ins h⟩

/-- The row is one of a table of the database. -/
def Restores (r : Reader) (ins : RowInsert) : Prop :=
  ∃ t ∈ r.database.tables, ∃ cells, rowInsert r.zone t cells = .ok ins

theorem RestoresFrom.restores {ins : RowInsert} (h : r.RestoresFrom es ins) : r.Restores ins := by
  obtain ⟨t, ht, cells, -, hins⟩ := h
  exact ⟨t, ht, byName cells, hins⟩

theorem readEvents_restores {reading : Reading} :
    ∀ ins ∈ (r.readEvents reading).rows, r.Restores ins :=
  fun ins hmem => (readEvents_restoresFrom ins hmem).restores

theorem read_restores {bytes : List UInt8} : ∀ ins ∈ (r.read bytes).rows, r.Restores ins := by
  intro ins hmem
  obtain ⟨reading, -, hfrom⟩ := read_restoresFrom hmem
  exact hfrom.restores

end Reader

end Tablekeep.Backup
