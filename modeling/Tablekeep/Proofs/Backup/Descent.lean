import Tablekeep.Backup.Reader
import Tablekeep.Proofs.Markup.Content
import Tablekeep.Proofs.Text.Blank

/-!
# Reading a backup by descent

The reader keeps a stack of open elements and is handed one event after another. A document
that is well formed is a tree, and on a tree the same work is a recursion: the content of the
database is wrappers and rows, the content of a wrapper is rows, the content of a row is
cells. `Reader.itemsOf` is that recursion.

The two agree. `run?` is the run of the stack machine without the wording of errors, and for
each kind of open element there is one lemma that says what the machine does with the rest of
its content and its end, whatever was on the stack below and whatever comes after. All of
them are inductions on the content; the text that is pending in the frame is what has to be
generalised.

The recursion looks at each piece of text where it stands. The machine looks at it later, with
what stands beside it. That makes no difference to whether the document is accepted, because
texts are blank together exactly when each of them is.
-/

namespace Tablekeep.Backup

open Markup

/-- The text due in an open element is in order exactly when it is blank. -/
theorem Frame.checkText_eq (f : Frame) :
    f.checkText = if Text.Blank f.text then .ok ()
      else .error (.strayText (Text.trim f.text) f.tag) := by
  unfold Frame.checkText
  by_cases h : Text.Blank f.text
  · simp [h, Text.trim_isEmpty_iff.mpr h]
  · simp [h, show (Text.trim f.text).isEmpty = false by
      rw [Bool.eq_false_iff, ne_eq, Text.trim_isEmpty_iff]; exact h]

namespace Reader

variable (r : Reader)

/-! ## The recursion -/

/-- The cells of a row, the latest first, after those that are there already. -/
def cellsIn (t : Table) (cells : List (String × String)) :
    Content → Option (List (String × String))
  | .empty => some cells
  | .text s rest => if Text.Blank s then cellsIn t cells rest else none
  | .element tag inner rest =>
    match t.column? tag with
    | none => none
    | some c =>
      if c.isBlob ∨ (cells.lookup c.name).isSome ∨ inner.children ≠ [] then none
      else cellsIn t ((c.name, inner.ownText) :: cells) rest

/-- The row that content stands for, if the cells before it are `cells`. -/
def rowIn (t : Table) (cells : List (String × String)) (row : Content) : Option RowInsert :=
  (cellsIn t cells row).bind fun cells => (rowInsert r.zone t cells).toOption

/-- The rows in a wrapper. -/
def rowsIn (t : Table) : Content → Option (List ReadItem)
  | .empty => some []
  | .text s rest => if Text.Blank s then rowsIn t rest else none
  | .element tag inner rest =>
    if Text.sameName tag t.name then
      (r.rowIn t [] inner).bind fun row => (rowsIn t rest).map (.row row :: ·)
    else none

/-- What stands right under the database. -/
def itemsIn : Content → Option (List ReadItem)
  | .empty => some []
  | .text s rest => if Text.Blank s then itemsIn rest else none
  | .element tag inner rest =>
    match r.topRole tag with
    | .ok (.wrapper t) =>
      (r.rowsIn t inner).bind fun rows => (itemsIn rest).map (.table t.name :: rows ++ ·)
    | .ok (.row t _) =>
      (r.rowIn t [] inner).bind fun row => (itemsIn rest).map (.row row :: ·)
    | _ => none

/-- What a document stands for, if it is a backup. -/
def itemsOf (root : Element) : Option (List ReadItem) :=
  if Text.sameName root.tag r.database.name then r.itemsIn root.content else none

/-! ## Runs of the machine -/

/-- The run over the events, if nothing stops it. -/
def run? (s : ReadState) : List Event → Option (List ReadItem × ReadState)
  | [] => some ([], s)
  | e :: es =>
    match r.step s e with
    | .error _ => none
    | .ok (s, item) => (run? s es).map fun (items, s) => (item.toList ++ items, s)

/-- A run before which something has been told. -/
def telling (items : List ReadItem) (run : Option (List ReadItem × ReadState)) :
    Option (List ReadItem × ReadState) :=
  run.map fun (more, s) => (items ++ more, s)

@[simp] theorem telling_nil (run : Option (List ReadItem × ReadState)) :
    telling [] run = run := by
  cases run <;> rfl

@[simp] theorem telling_none (items : List ReadItem) : telling items none = none := rfl

@[simp] theorem telling_telling (items more : List ReadItem)
    (run : Option (List ReadItem × ReadState)) :
    telling items (telling more run) = telling (items ++ more) run := by
  cases run <;> simp [telling]

theorem steps_eq_ok_iff {s s' : ReadState} {es : List Event} {items : List ReadItem} :
    r.steps s es = (items, .ok s') ↔ r.run? s es = some (items, s') := by
  induction es generalizing s s' items with
  | nil => simp [steps, run?, eq_comm]
  | cons e es ih =>
      rw [steps, run?]
      cases h : r.step s e with
      | error error => simp
      | ok out =>
          obtain ⟨s1, item⟩ := out
          simp only
          cases hs : r.steps s1 es with
          | mk more result =>
              cases result with
              | error error =>
                  -- what was told before the error is lost in `run?`
                  have : r.run? s1 es = none := by
                    rw [Option.eq_none_iff_forall_not_mem]
                    rintro ⟨items', s2⟩ hmem
                    have := ih.mpr (Option.mem_def.mp hmem)
                    rw [hs] at this
                    simp at this
                  simp [this]
              | ok s2 =>
                  rw [ih.mp hs]
                  simp [and_comm]

theorem run?_cons {s : ReadState} {e : Event} {es : List Event} (s' : ReadState)
    (item : Option ReadItem) (h : r.step s e = .ok (s', item)) :
    r.run? s (e :: es) = telling item.toList (r.run? s' es) := by
  rw [run?, h]
  rfl

theorem run?_cons_error {s : ReadState} {e : Event} {es : List Event} (error : ReadError)
    (h : r.step s e = .error error) : r.run? s (e :: es) = none := by
  rw [run?, h]

/-- A plural makes a wrapper, of the first table that has it, -/
theorem topRole_eq_wrapper_iff {tag : String} {t : Table} :
    r.topRole tag = .ok (.wrapper t) ↔
      (r.database.tables.find? fun t => Text.sameName (r.plural t.name) tag) = some t := by
  unfold topRole
  split
  · rename_i u hfind
    simp [hfind]
  · rename_i hfind
    rw [hfind]
    split <;> simp

/-- and the name of a table makes a row, if it is no plural. -/
theorem topRole_eq_row_iff {tag : String} {t : Table} :
    r.topRole tag = .ok (.row t []) ↔
      (r.database.tables.find? fun t => Text.sameName (r.plural t.name) tag) = none
        ∧ r.database.table? tag = some t := by
  unfold topRole
  split
  · rename_i u hfind
    simp [hfind]
  · rename_i hfind
    split
    · rename_i u htable
      simp [hfind, htable]
    · rename_i htable
      simp [htable]

/-- Right under the database there are wrappers and rows, of tables of the database. -/
theorem topRole_mem {tag : String} {role : Role} (h : r.topRole tag = .ok role) :
    (∃ t, role = .wrapper t ∧ t ∈ r.database.tables)
      ∨ ∃ t, role = .row t [] ∧ t ∈ r.database.tables := by
  unfold topRole at h
  split at h
  · rename_i t hfind
    cases h
    exact .inl ⟨t, rfl, List.mem_of_find?_eq_some hfind⟩
  · split at h
    · rename_i t hfind
      cases h
      exact .inr ⟨t, rfl, List.mem_of_find?_eq_some hfind⟩
    · cases h

/-! ## One lemma for each kind of open element -/

section Elements

variable {outer : List Frame} {tag : String} {es : List Event}

/-- The text of an open element grows. -/
theorem run?_text (f : Frame) (s : String) :
    r.run? ⟨f :: outer, true⟩ (.text s :: es)
      = r.run? ⟨{ f with text := f.text ++ s } :: outer, true⟩ es := by
  rw [r.run?_cons ⟨{ f with text := f.text ++ s } :: outer, true⟩ none rfl]
  simp

/-- Text that is not blank stops the next start, -/
theorem run?_start_stray {f : Frame} (hf : ¬ Text.Blank f.text) :
    r.run? ⟨f :: outer, true⟩ (.start tag :: es) = none := by
  refine r.run?_cons_error (.shape (.strayText (Text.trim f.text) f.tag)) ?_
  simp [step, start, Frame.checkText_eq, hf]

/-- and so does an element that has no place there. -/
theorem run?_start_refused {f : Frame} (error : ReadError) (hrole : r.roleIn f tag = .error error) :
    r.run? ⟨f :: outer, true⟩ (.start tag :: es) = none := by
  by_cases hf : Text.Blank f.text
  · refine r.run?_cons_error error ?_
    simp [step, start, Frame.checkText_eq, hf, hrole]
  · exact r.run?_start_stray hf

/-- Otherwise the element is opened. -/
theorem run?_start {f : Frame} {role : Role} (hf : Text.Blank f.text)
    (hrole : r.roleIn f tag = .ok role) :
    r.run? ⟨f :: outer, true⟩ (.start tag :: es)
      = telling (announced role).toList
          (r.run? ⟨⟨tag, role, ""⟩ :: { f with text := "" } :: outer, true⟩ es) := by
  refine r.run?_cons _ _ ?_
  simp [step, start, Frame.checkText_eq, hf, hrole]

/-- The end of a wrapper or of the database. -/
theorem run?_finish {f : Frame} (hf : f.role = .database ∨ ∃ t, f.role = .wrapper t) :
    r.run? ⟨f :: outer, true⟩ (.finish :: es)
      = if Text.Blank f.text then r.run? ⟨outer, true⟩ es else none := by
  obtain ⟨tag, role, text⟩ := f
  by_cases hb : Text.Blank text
  · rw [if_pos hb, r.run?_cons ⟨outer, true⟩ none]
    · simp
    · rcases hf with rfl | ⟨t, rfl⟩ <;> simp [step, finish, Frame.checkText_eq, hb]
  · rw [if_neg hb, r.run?_cons_error (.shape (.strayText (Text.trim text) tag))]
    rcases hf with rfl | ⟨t, rfl⟩ <;> simp [step, finish, Frame.checkText_eq, hb]

/-- The rest of a cell and its end. -/
theorem run?_cell {t t' : Table} {c : Column} {rowTag rowText : String}
    {cells : List (String × String)} (inner : Content) (text : String) :
    r.run? ⟨⟨tag, .cell t c, text⟩ :: ⟨rowTag, .row t' cells, rowText⟩ :: outer, true⟩
        (inner.events ++ .finish :: es)
      = if inner.children = [] then
          r.run? ⟨⟨rowTag, .row t' ((c.name, text ++ inner.ownText) :: cells), rowText⟩ :: outer,
            true⟩ es
        else none := by
  induction inner generalizing text with
  | empty =>
      simp only [Content.events, List.nil_append, Content.children, ↓reduceIte, Content.ownText,
        String.append_empty]
      rw [r.run?_cons _ none rfl]
      simp
  | text s rest ih =>
      rw [Content.events, List.cons_append, run?_text, ih, Content.children, Content.ownText,
        String.append_assoc]
  | element tag' inner rest _ _ =>
      rw [Content.events, List.cons_append, run?_start_refused r _ rfl]
      simp [Content.children]

/-- The rest of a row and its end. -/
theorem run?_row {t : Table} (content : Content) (text : String)
    (cells : List (String × String)) :
    r.run? ⟨⟨tag, .row t cells, text⟩ :: outer, true⟩ (content.events ++ .finish :: es)
      = if Text.Blank text then
          (r.rowIn t cells content).bind fun row => telling [.row row] (r.run? ⟨outer, true⟩ es)
        else none := by
  induction content generalizing text cells with
  | empty =>
      simp only [Content.events, List.nil_append, rowIn, cellsIn, Option.bind_some]
      by_cases hb : Text.Blank text
      · simp only [hb, ↓reduceIte]
        cases hrow : rowInsert r.zone t cells with
        | error error =>
            rw [r.run?_cons_error error]
            · rfl
            · simp [step, finish, Frame.checkText_eq, hb, hrow, Except.map]
        | ok row =>
            rw [r.run?_cons ⟨outer, true⟩ (some (.row row))]
            · rfl
            · simp [step, finish, Frame.checkText_eq, hb, hrow, Except.map]
      · rw [if_neg hb, r.run?_cons_error (.shape (.strayText (Text.trim text) tag))]
        simp [step, finish, Frame.checkText_eq, hb]
  | text s rest ih =>
      rw [Content.events, List.cons_append, run?_text, ih]
      by_cases hb : Text.Blank text <;> by_cases hs : Text.Blank s <;>
        simp [hb, hs, rowIn, cellsIn]
  | element tag' inner rest _ ih =>
      rw [Content.events, List.cons_append, List.append_assoc, List.cons_append]
      by_cases hb : Text.Blank text
      · simp only [hb, ↓reduceIte, rowIn, cellsIn]
        cases hc : t.column? tag' with
        | none =>
            rw [r.run?_start_refused (.shape (.unknownColumn t.name tag'))]
            · rfl
            · simp [roleIn, cellRole, hc]
        | some c =>
            by_cases hblob : c.isBlob = true
            · rw [r.run?_start_refused (.value (.blob tag'))]
              · simp [hblob]
              · simp [roleIn, cellRole, hc, hblob]
            · by_cases htwice : (cells.lookup c.name).isSome = true
              · rw [r.run?_start_refused (.shape (.repeatedColumn t.name c.name))]
                · simp [htwice]
                · simp [roleIn, cellRole, hc, hblob, htwice]
              · -- the cell takes all text up to its end, blank or not, so no test comes before `ih`
                have hrole : r.roleIn ⟨tag, .row t cells, text⟩ tag' = .ok (.cell t c) := by
                  simp [roleIn, cellRole, hc, hblob, htwice]
                rw [r.run?_start hb hrole]
                simp only [announced, Option.toList_none, telling_nil, run?_cell]
                by_cases hflat : inner.children = []
                · simp [hflat, ih, hblob, htwice, rowIn]
                · simp [hflat]
      · rw [if_neg hb, run?_start_stray r hb]

/-- The rest of a wrapper and its end. -/
theorem run?_wrapper {t : Table} (content : Content) (text : String) :
    r.run? ⟨⟨tag, .wrapper t, text⟩ :: outer, true⟩ (content.events ++ .finish :: es)
      = if Text.Blank text then
          (r.rowsIn t content).bind fun rows => telling rows (r.run? ⟨outer, true⟩ es)
        else none := by
  induction content generalizing text with
  | empty =>
      rw [Content.events, List.nil_append, r.run?_finish (.inr ⟨t, rfl⟩)]
      simp [rowsIn]
  | text s rest ih =>
      rw [Content.events, List.cons_append, run?_text, ih]
      by_cases hb : Text.Blank text <;> by_cases hs : Text.Blank s <;>
        simp [hb, hs, rowsIn]
  | element tag' inner rest _ ih =>
      rw [Content.events, List.cons_append, List.append_assoc, List.cons_append]
      by_cases hb : Text.Blank text
      · simp only [hb, ↓reduceIte, rowsIn]
        by_cases hname : Text.sameName tag' t.name = true
        · have hrole : r.roleIn ⟨tag, .wrapper t, text⟩ tag' = .ok (.row t []) := by
            simp [roleIn, hname]
          rw [r.run?_start hb hrole, if_pos hname]
          simp only [announced, Option.toList_none, telling_nil, run?_row, Text.blank_empty,
            ↓reduceIte, ih]
          cases r.rowIn t [] inner <;> cases r.rowsIn t rest <;> simp
        · rw [if_neg hname,
            r.run?_start_refused (.shape (.wrongRow t.name tag tag'))]
          · rfl
          · simp [roleIn, hname]
      · rw [if_neg hb, run?_start_stray r hb]

/-- The rest of the database and its end. -/
theorem run?_database (content : Content) (text : String) :
    r.run? ⟨⟨tag, .database, text⟩ :: outer, true⟩ (content.events ++ .finish :: es)
      = if Text.Blank text then
          (r.itemsIn content).bind fun items => telling items (r.run? ⟨outer, true⟩ es)
        else none := by
  induction content generalizing text with
  | empty =>
      rw [Content.events, List.nil_append, r.run?_finish (.inl rfl)]
      simp [itemsIn]
  | text s rest ih =>
      rw [Content.events, List.cons_append, run?_text, ih]
      by_cases hb : Text.Blank text <;> by_cases hs : Text.Blank s <;>
        simp [hb, hs, itemsIn]
  | element tag' inner rest _ ih =>
      rw [Content.events, List.cons_append, List.append_assoc, List.cons_append]
      by_cases hb : Text.Blank text
      · simp only [hb, ↓reduceIte, itemsIn]
        cases htop : r.topRole tag' with
        | error error =>
            rw [r.run?_start_refused (.shape error)]
            · rfl
            · rw [roleIn, htop]
              rfl
        | ok role =>
            have hrole : r.roleIn ⟨tag, .database, text⟩ tag' = .ok role := by
              rw [roleIn, htop]
              rfl
            rw [r.run?_start hb hrole]
            rcases r.topRole_mem htop with ⟨t, rfl, -⟩ | ⟨t, rfl, -⟩
            · simp only [announced, Option.toList_some, run?_wrapper, Text.blank_empty,
                ↓reduceIte, ih]
              cases r.rowsIn t inner <;> cases r.itemsIn rest <;> simp
            · simp only [announced, Option.toList_none, telling_nil, run?_row, Text.blank_empty,
                ↓reduceIte, ih]
              cases r.rowIn t [] inner <;> cases r.itemsIn rest <;> simp
      · rw [if_neg hb, run?_start_stray r hb]

end Elements

/-! ## Documents -/

/-- **The machine and the recursion agree on every tree.** -/
theorem readEvents_element_iff (root : Element) (items : List ReadItem) :
    r.readEvents ⟨root.events, true⟩ = ⟨items, none⟩ ↔ r.itemsOf root = some items := by
  have hrun : r.run? .initial root.events
      = (r.itemsOf root).bind fun items => some (items, ⟨[], true⟩) := by
    unfold itemsOf Element.events
    by_cases hname : Text.sameName root.tag r.database.name = true
    · rw [r.run?_cons ⟨[⟨root.tag, .database, ""⟩], true⟩ none]
      · rw [run?_database]
        simp [hname, run?, telling]
      · simp [step, start, ReadState.initial, rootRole, hname]
    · rw [r.run?_cons_error (.shape (.wrongDatabase r.database.name root.tag))]
      · simp [hname]
      · simp [step, start, ReadState.initial, rootRole, hname]
  unfold readEvents
  cases hsteps : r.steps .initial root.events with
  | mk told result =>
      cases result with
      | error error =>
          have hnone : r.itemsOf root = none := by
            cases hitems : r.itemsOf root with
            | none => rfl
            | some items' =>
                rw [hitems] at hrun
                have := (r.steps_eq_ok_iff).mpr hrun
                rw [hsteps] at this
                simp at this
          simp [hnone]
      | ok s =>
          have := (r.steps_eq_ok_iff).mp hsteps
          rw [hrun] at this
          cases hitems : r.itemsOf root with
          | none => rw [hitems] at this; simp at this
          | some items' =>
              rw [hitems] at this
              simp only [Option.bind_some, Option.some.injEq, Prod.mk.injEq] at this
              obtain ⟨rfl, rfl⟩ := this
              simp

end Reader

end Tablekeep.Backup
