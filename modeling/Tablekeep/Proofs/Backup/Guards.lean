import Tablekeep.Definition.Plural
import Tablekeep.Proofs.Backup.Slots

/-!
# Tests that never fail

A reader of slots tests for what no document leads to: an element outside a row or after the end, a
table that is missing, an end where nothing is open (`Stop.isGuard`). On a well-formed document none
of these tests fails. Every error of the running reader is about what was found, not about where it
stands, and the two readers do the same on every part of the document.

So after every event the stack is in shape (`Shaped`), which is said of plain records and leaves it
to nobody to look up what a role brings with it.
-/

namespace Tablekeep.Backup

open Markup

variable {s s' : ReadState} {item : Option ReadItem} {es : List Event}

namespace Reader

variable {r : Reader}

/-! ## Errors -/

theorem checkText_error {f : Frame} {e : ShapeError} (h : f.checkText = .error e) :
    (Stop.read (.shape e)).isGuard = false := by
  unfold Frame.checkText at h
  dsimp only at h
  split at h
  · cases h
  · cases h
    rfl

theorem topRole_error {tag : String} {e : ShapeError} (h : r.topRole tag = .error e) :
    (Stop.read (.shape e)).isGuard = false := by
  unfold topRole at h
  repeat' split at h
  all_goals cases h
  rfl

theorem cellRole_error {t : Table} {cells : List (String × String)} {tag : String} {e : ReadError}
    (h : cellRole t cells tag = .error e) : (Stop.read e).isGuard = false := by
  unfold cellRole at h
  repeat' split at h
  all_goals
    cases h
    try rfl

theorem roleIn_error {parent : Frame} {tag : String} {e : ReadError}
    (h : r.roleIn parent tag = .error e) : (Stop.read e).isGuard = false := by
  unfold roleIn at h
  split at h
  · obtain ⟨_, htop, rfl⟩ := Outcome.mapError_eq_error_iff.mp h
    exact topRole_error htop
  · split at h
    · cases h
    · cases h
      rfl
  · exact cellRole_error h
  · cases h
    rfl

theorem rowPairs_error {zone : Option Int} {t : Table} {cells : List (String × String)}
    {cs : List Column} {e : ReadError} (h : rowPairs zone t cells cs = .error e) :
    (Stop.read e).isGuard = false := by
  induction cs with
  | nil => cases h
  | cons c cs ih =>
      rw [rowPairs] at h
      split at h
      · split at h
        · exact ih h
        · cases h
          rfl
      · split at h
        · cases h
          rfl
        · exact ih (Outcome.map_eq_error_iff.mp h)

theorem rowInsert_error {zone : Option Int} {t : Table} {cells : List (String × String)}
    {e : ReadError} (h : rowInsert zone t cells = .error e) : (Stop.read e).isGuard = false := by
  unfold rowInsert at h
  split at h
  · rename_i hpairs
    cases h
    exact rowPairs_error hpairs
  · split at h
    · cases h
      rfl
    · cases h
  · cases h

/-- An element that begins is refused for what it is, not for where it stands. -/
theorem start_error {tag : String} {e : ReadError} (hdue : Due s (.start tag :: es))
    (h : r.start s tag = .error e) : (Stop.read e).isGuard = false := by
  unfold start at h
  split at h
  · rename_i hframes
    split at h
    · rename_i hstarted
      exact absurd hstarted (hdue.started_of_start hframes)
    · split at h
      · rename_i hrole
        cases h
        unfold rootRole at hrole
        split at hrole <;> cases hrole
        rfl
      · cases h
  · split at h
    · rename_i htext
      cases h
      exact checkText_error htext
    · split at h
      · rename_i hrole
        cases h
        exact roleIn_error hrole
      · cases h

theorem finish_error {e : ReadError} (hs : Stacked s.frames) (hopen : s.frames ≠ [])
    (h : r.finish s = .error e) : (Stop.read e).isGuard = false := by
  unfold finish at h
  generalize s.frames = frames at h hs hopen
  cases hs with
  | nothing => exact absurd rfl hopen
  | database tag text =>
      dsimp only at h
      split at h
      · rename_i htext
        cases h
        exact checkText_error htext
      · cases h
  | wrapper tag text rootTag rootText t =>
      dsimp only at h
      split at h
      · rename_i htext
        cases h
        exact checkText_error htext
      · cases h
  | row tag text hcells houter =>
      dsimp only at h
      split at h
      · rename_i htext
        cases h
        exact checkText_error htext
      · exact rowInsert_error (Outcome.map_eq_error_iff.mp h)
  | cell => cases h

/-- No step of the reader stops at a guard. -/
theorem step_error {e : Event} {error : ReadError} (hs : Stacked s.frames)
    (hdue : Due s (e :: es)) (h : r.step s e = .error error) :
    (Stop.read error).isGuard = false := by
  cases e with
  | start tag =>
      rw [step] at h
      exact start_error hdue h
  | text text => cases h
  | finish =>
      rw [step] at h
      exact finish_error hs hdue.open_of_finish h

/-! ## Runs -/

/-- What a run has told and where it is, in slots. -/
def runOf (x : List ReadItem × Except ReadError ReadState) :
    List ReadItem × Except Stop SlotState :=
  (x.1, (x.2.mapError .read).map ReadState.inSlots)

/-- **Every part of a document takes both readers to the same stack**, which has its shape, with the
rest of the document due. What stops them is no guard. -/
theorem runSlots_inSlots {before after : List Event} (hs : Stacked s.frames)
    (hdue : Due s (before ++ after)) :
    r.runSlots s.inSlots before = runOf (r.steps s before)
      ∧ (∀ s', (r.steps s before).2 = .ok s' → Stacked s'.frames ∧ Due s' after)
      ∧ ∀ e, (r.steps s before).2 = .error e → (Stop.read e).isGuard = false := by
  -- what is due belongs to the whole document, so it goes along with the state and `after` stays
  induction before generalizing s with
  | nil =>
      refine ⟨rfl, ?_, ?_⟩
      · rintro s' ⟨⟩
        exact ⟨hs, hdue⟩
      · rintro e ⟨⟩
  | cons e before ih =>
      have hsame := stepSlots_inSlots (r := r) hs hdue
      rw [runSlots, steps, hsame]
      cases hstep : r.step s e with
      | error error =>
          refine ⟨rfl, ?_, ?_⟩
          · rintro s' ⟨⟩
          · rintro _ ⟨⟩
            exact step_error hs hdue hstep
      | ok told =>
          obtain ⟨s', item⟩ := told
          obtain ⟨hrun, hrest⟩ := ih (step_stacked hstep hs) (step_due hstep hdue)
          refine ⟨?_, hrest⟩
          simp only [slotsOf, hrun]
          rfl

end Reader

/-! ## The shape -/

/-- The kinds that can be open at a time, innermost first. -/
def Kind.stacks : List (List Kind) :=
  [[], [.database], [.wrapper, .database], [.row, .database], [.row, .wrapper, .database],
    [.cell, .row, .database], [.cell, .row, .wrapper, .database]]

/-- The shape of a stack, innermost first. -/
structure Shaped (slots : List Slot) : Prop where
  kinds : slots.map (·.kind) ∈ Kind.stacks
  /-- Every element but the outermost belongs to a table. -/
  tabled : ∀ slot ∈ slots.dropLast, slot.table ≠ none
  /-- It is the same table for all of them. -/
  shared : ∀ a ∈ slots.dropLast, ∀ b ∈ slots.dropLast, a.table = b.table
  /-- A cell has a column of the table that is no large object and has no cell in the row yet. -/
  cell : ∀ slot parent outer, slots = slot :: parent :: outer → slot.kind = .cell →
    ∃ t c, slot.table = some t ∧ slot.column = some c ∧ c ∈ t.columns ∧ c.isBlob = false
      ∧ parent.cells.lookup c.name = none
  /-- The cells of a row are those of columns of its table that are no large objects. -/
  cells : ∀ slot ∈ slots, slot.kind = .row →
    ∃ t, slot.table = some t ∧ CellsOf t slot.cells

theorem HoldsRows.slots_ne_nil {t : Table} {outer : List Frame} (h : HoldsRows t outer) :
    outer.map Slot.ofFrame ≠ [] := by
  cases h <;> simp

/-- Around a row there are the database and elements of its table that are no rows. -/
theorem HoldsRows.around {t : Table} {outer : List Frame} (h : HoldsRows t outer) :
    ((outer.map Slot.ofFrame).map (·.kind) = [.database]
        ∨ (outer.map Slot.ofFrame).map (·.kind) = [.wrapper, .database])
      ∧ (∀ slot ∈ (outer.map Slot.ofFrame).dropLast, slot.table = some t)
      ∧ ∀ slot ∈ outer.map Slot.ofFrame, slot.kind ≠ .row := by
  cases h with
  | bare tag text =>
      exact ⟨.inl rfl, List.forall_mem_nil _, by simp [Slot.ofFrame, Slot.ofRole]⟩
  | wrapped tag text rootTag rootText =>
      refine ⟨.inr rfl, ?_, by simp [Slot.ofFrame, Slot.ofRole]⟩
      exact List.forall_mem_singleton.mpr rfl

/-- A stack whose elements all belong to one table is in shape. -/
theorem Shaped.ofTable {slots : List Slot} (t : Table) (kinds : slots.map (·.kind) ∈ Kind.stacks)
    (table : ∀ slot ∈ slots.dropLast, slot.table = some t)
    (cell : ∀ slot parent outer, slots = slot :: parent :: outer → slot.kind = .cell →
      ∃ c, slot.column = some c ∧ c ∈ t.columns ∧ c.isBlob = false
        ∧ parent.cells.lookup c.name = none)
    (cells : ∀ slot ∈ slots, slot.kind = .row → slot.table = some t ∧ CellsOf t slot.cells) :
    Shaped slots where
  kinds := kinds
  tabled slot hslot := by simp [table slot hslot]
  shared a ha b hb := (table a ha).trans (table b hb).symm
  cell slot parent outer hslots hkind := by
    obtain ⟨c, hcolumn, hc, hblob, hfresh⟩ := cell slot parent outer hslots hkind
    refine ⟨t, c, table slot ?_, hcolumn, hc, hblob, hfresh⟩
    rw [hslots]
    exact List.mem_cons_self
  cells slot hslot hkind := ⟨t, cells slot hslot hkind⟩

/-- **The stack of the reader is in shape.** -/
theorem Stacked.shaped {frames : List Frame} (h : Stacked frames) :
    Shaped (frames.map Slot.ofFrame) := by
  cases h with
  | nothing => exact ⟨by decide, by simp, by simp, by simp, by simp⟩
  | database tag text =>
      exact ⟨by simp [Kind.stacks, Slot.ofFrame, Slot.ofRole], by simp, by simp, by simp,
        by simp [Slot.ofFrame, Slot.ofRole]⟩
  | wrapper tag text rootTag rootText t =>
      refine .ofTable t ?_ ?_ ?_ ?_
      · simp [Kind.stacks, Slot.ofFrame, Slot.ofRole]
      · exact List.forall_mem_singleton.mpr rfl
      · rintro slot parent outer ⟨⟩ hkind
        simp [Slot.ofFrame, Slot.ofRole] at hkind
      · simp [Slot.ofFrame, Slot.ofRole]
  | @row tag text t cells outer hcells houter =>
      obtain ⟨hkinds, htable, hrows⟩ := houter.around
      refine .ofTable t ?_ ?_ ?_ ?_
      · rw [List.map_cons, List.map_cons]
        obtain hkinds | hkinds := hkinds
        · simp [hkinds, Kind.stacks, Slot.ofFrame, Slot.ofRole]
        · simp [hkinds, Kind.stacks, Slot.ofFrame, Slot.ofRole]
      · rw [List.map_cons, List.dropLast_cons_of_ne_nil houter.slots_ne_nil]
        exact List.forall_mem_cons.mpr ⟨rfl, htable⟩
      · rintro slot parent rest hslots hkind
        obtain rfl := (List.cons.inj hslots).1
        simp [Slot.ofFrame, Slot.ofRole] at hkind
      · exact List.forall_mem_cons.mpr
          ⟨fun _ => ⟨rfl, hcells⟩, fun slot hslot hkind => absurd hkind (hrows slot hslot)⟩
  | @cell tag text rowTag rowText t c cells outer hc hblob hfresh hcells houter =>
      obtain ⟨hkinds, htable, hrows⟩ := houter.around
      refine .ofTable t ?_ ?_ ?_ ?_
      · rw [List.map_cons, List.map_cons, List.map_cons, List.map_cons]
        obtain hkinds | hkinds := hkinds
        · simp [hkinds, Kind.stacks, Slot.ofFrame, Slot.ofRole]
        · simp [hkinds, Kind.stacks, Slot.ofFrame, Slot.ofRole]
      · rw [List.map_cons, List.map_cons, List.dropLast_cons_of_ne_nil (List.cons_ne_nil _ _),
          List.dropLast_cons_of_ne_nil houter.slots_ne_nil]
        exact List.forall_mem_cons.mpr ⟨rfl, List.forall_mem_cons.mpr ⟨rfl, htable⟩⟩
      · intro slot parent rest hslots _
        simp only [List.map_cons, List.cons.injEq] at hslots
        obtain ⟨rfl, rfl, -⟩ := hslots
        exact ⟨c, rfl, hc, hblob, hfresh⟩
      · refine List.forall_mem_cons.mpr ⟨by simp [Slot.ofFrame, Slot.ofRole], ?_⟩
        exact List.forall_mem_cons.mpr
          ⟨fun _ => ⟨rfl, hcells⟩, fun slot hslot hkind => absurd hkind (hrows slot hslot)⟩

namespace Reader

variable {r : Reader}

/-! ## Documents -/

/-- The stack keeps its shape while the events of a document are read. -/
structure KeepsShape (r : Reader) (reading : Reading) : Prop where
  /-- After every part of the events that is read without an error the stack has its shape, and is
  not empty if an element ends next. -/
  shaped : ∀ before after items s, reading.events = before ++ after →
    r.runSlots .initial before = (items, .ok s) →
      Shaped s.slots ∧ ∀ later, after = .finish :: later → s.slots ≠ []
  /-- It is the stack of the running reader. -/
  running : ∀ before after, reading.events = before ++ after →
    r.runSlots .initial before = runOf (r.steps .initial before)
  /-- What stops the reading is no guard. -/
  unguarded : ∀ stop, (r.readSlots reading).2 = some stop → stop.isGuard = false
  /-- The reading tells what the running reader tells, and ends as it does. -/
  same : r.readSlots reading
    = ((r.readEvents reading).items, (r.readEvents reading).failure.map .read)

/-- The reading of a tree does not end before the outermost element has begun. -/
theorem started_of_steps {root : Element} (h : (r.steps .initial root.events).2 = .ok s') :
    s'.started = true := by
  have hdue : Due .initial (root.events ++ []) := by
    rw [List.append_nil]
    exact .whole root
  have hend : Due s' [] := ((runSlots_inSlots (r := r) .nothing hdue).2.1 s' h).2
  generalize hnil : ([] : List Event) = rest at hend
  cases hend with
  | whole root => cases hnil
  | rest => rfl

/-- The two readers tell the same of a tree, and no guard stops them. -/
theorem readSlots_element (r : Reader) (root : Element) :
    r.readSlots ⟨root.events, true⟩
        = ((r.readEvents ⟨root.events, true⟩).items,
          (r.readEvents ⟨root.events, true⟩).failure.map .read)
      ∧ ∀ stop, (r.readSlots ⟨root.events, true⟩).2 = some stop → stop.isGuard = false := by
  have hdue : Due .initial (root.events ++ []) := by
    rw [List.append_nil]
    exact .whole root
  obtain ⟨hrun, -, herror⟩ := runSlots_inSlots (r := r) .nothing hdue
  have hstarted (s' : ReadState) (h : (r.steps .initial root.events).2 = .ok s') :
      s'.started = true := started_of_steps h
  change r.runSlots .initial root.events = _ at hrun
  unfold readSlots readEvents
  rw [hrun]
  generalize r.steps .initial root.events = run at herror hstarted
  obtain ⟨items, _ | s'⟩ := run
  · refine ⟨rfl, ?_⟩
    rintro _ ⟨⟩
    exact herror _ rfl
  · have hs' : s'.started = true := hstarted s' rfl
    simp [runOf, Outcome.mapError_ok, Except.map, ReadState.inSlots, hs']

theorem keepsShape_element (r : Reader) (root : Element) : r.KeepsShape ⟨root.events, true⟩ := by
  obtain ⟨hsame, hguard⟩ := readSlots_element r root
  have hrun : ∀ before after, root.events = before ++ after →
      r.runSlots .initial before = runOf (r.steps .initial before)
        ∧ ∀ s', (r.steps .initial before).2 = .ok s' → Stacked s'.frames ∧ Due s' after := by
    intro before after hsplit
    have hdue : Due .initial (before ++ after) := by
      rw [← hsplit]
      exact .whole root
    obtain ⟨hboth, hok, -⟩ := runSlots_inSlots (r := r) .nothing hdue
    exact ⟨hboth, hok⟩
  refine ⟨?_, fun before after hsplit => (hrun before after hsplit).1, hguard, hsame⟩
  intro before after items s hsplit hslots
  obtain ⟨hboth, hok⟩ := hrun before after hsplit
  rw [hboth, runOf, Prod.mk.injEq] at hslots
  obtain ⟨s', hs', rfl⟩ := Outcome.map_eq_ok_iff.mp hslots.2
  obtain ⟨hstacked, hdue⟩ := hok s' (Outcome.mapError_eq_ok_iff.mp hs')
  refine ⟨hstacked.shaped, ?_⟩
  rintro later rfl hempty
  exact hdue.open_of_finish (List.map_eq_nil_iff.mp hempty)

/-- **The stack of the reader keeps its shape**, for every database and every plural: on every
well-formed tree, and on every document in bytes that is well formed. -/
theorem stack_keepsShape (r : Reader) :
    (∀ root : Element, r.KeepsShape ⟨root.events, true⟩)
      ∧ ∀ bytes reading, Markup.read bytes = .ok reading → reading.wellFormed = true →
        r.KeepsShape reading := by
  refine ⟨keepsShape_element r, fun bytes reading hread hwell => ?_⟩
  obtain ⟨root, hroot⟩ := exists_element_of_wellFormed hread hwell
  have hreading : reading = ⟨root.events, true⟩ := by rw [← hroot, ← hwell]
  rw [hreading]
  exact keepsShape_element r root

/-- The stack keeps its shape in a shop with a bare item, whose name is open after seven events. -/
theorem stack_keepsShape_shop :
    let r : Reader := ⟨.shelf, Plural.ofName, some 0⟩
    let bytes := Text.Utf8.encode "<shop><item><id>7</id><name>bread</name></item></shop>"
    let reading : Reading :=
      ⟨[.start "shop", .start "item", .start "id", .text "7", .finish, .start "name", .text "bread",
        .finish, .finish, .finish], true⟩
    let t := r.database.table? "item"
    let slots : List Slot :=
      [⟨"name", .cell, t, t.bind (·.column? "name"), [], "bread"⟩,
        ⟨"item", .row, t, none, [("id", "7")], ""⟩, ⟨"shop", .database, none, none, [], ""⟩]
    Markup.read bytes = .ok reading ∧ r.KeepsShape reading
      ∧ r.runSlots .initial (reading.events.take 7) = ([], .ok ⟨slots, true⟩) ∧ Shaped slots := by
  intro r bytes reading t slots
  have hread : Markup.read bytes = .ok reading := by decide +kernel
  have hkeeps : r.KeepsShape reading := (stack_keepsShape r).2 bytes reading hread rfl
  have hslots : r.runSlots .initial (reading.events.take 7) = ([], .ok ⟨slots, true⟩) := by
    decide +kernel
  have hsplit : reading.events = reading.events.take 7 ++ reading.events.drop 7 := rfl
  exact ⟨hread, hkeeps, hslots, (hkeeps.shaped _ _ _ _ hsplit hslots).1⟩

end Reader

end Tablekeep.Backup
