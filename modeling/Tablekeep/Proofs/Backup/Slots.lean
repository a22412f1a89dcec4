import Tablekeep.Proofs.Backup.Stack

/-!
# The stack from outside

The role of an open element brings its table and its column with it, so that much of what could be
wrong with a stack cannot be said of the reader's. A `Slot` is an open element as a plain record: a
kind, and a table, a column and cells that may or may not be there. The reader of slots has to test
for what it needs, and stops with a `Stop` where it is missing, where an element ends and none is
open, or where the document has no place for an element.

Where the stack of the reader has its shape and the event is due, one event is the same for both
readers (`stepSlots_inSlots`), whether it succeeds or not.
-/

namespace Tablekeep.Backup

open Markup

/-! ## Slots -/

/-- What kind of element is open. -/
inductive Kind where
  | database
  | wrapper
  | row
  | cell
  deriving DecidableEq, Repr

/-- An open element as a plain record. -/
structure Slot where
  /-- The name as it is written. -/
  tag : String
  kind : Kind
  table : Option Table
  column : Option Column
  /-- The texts of the cells in it so far, the latest first. -/
  cells : List (String × String)
  /-- The text since the element began or since the last element in it ended. -/
  text : String
  deriving DecidableEq, Repr

/-- Why a reader of slots stops. -/
inductive Stop where
  /-- The document is at fault. -/
  | read (error : ReadError)
  /-- The table of an element is needed that belongs to none. -/
  | noTable (tag : String)
  /-- An element ends where none is open. -/
  | nothingOpen
  deriving DecidableEq, Repr

/-- A test has failed that is there for stacks which no document leads to. -/
def Stop.isGuard : Stop → Bool
  | .noTable _ => true
  | .nothingOpen => true
  | .read (.shape (.outsideRow _)) => true
  | .read (.shape (.afterDatabase _)) => true
  | .read (.shape .noDatabase) => true
  | .read _ => false

namespace Slot

/-- An element with a role begins. -/
def ofRole (tag : String) : Role → Slot
  | .database => ⟨tag, .database, none, none, [], ""⟩
  | .wrapper t => ⟨tag, .wrapper, some t, none, [], ""⟩
  | .row t cells => ⟨tag, .row, some t, none, cells, ""⟩
  | .cell t c => ⟨tag, .cell, some t, some c, [], ""⟩

/-- An open element of the reader. -/
def ofFrame (f : Frame) : Slot :=
  { ofRole f.tag f.role with text := f.text }

/-- The table of the element, which is needed. -/
def needTable (s : Slot) : Except Stop Table :=
  match s.table with
  | some t => .ok t
  | none => .error (.noTable s.tag)

/-- The text that is due in the element has to be blank. -/
def checkText (s : Slot) : Except Stop Unit :=
  let text := Text.trim s.text
  if text.isEmpty then .ok () else .error (.read (.shape (.strayText text s.tag)))

/-- What is told when the element begins. -/
def announced (s : Slot) : Option ReadItem :=
  match s.kind with
  | .wrapper => s.table.map fun t => .table t.name
  | _ => none

end Slot

/-- How far a reader of slots is. -/
structure SlotState where
  /-- The open elements, innermost first. -/
  slots : List Slot
  /-- The outermost element has begun. -/
  started : Bool
  deriving DecidableEq, Repr

/-- Nothing has been read. -/
def SlotState.initial : SlotState := ⟨[], false⟩

/-- A state of the reader in slots. -/
def ReadState.inSlots (s : ReadState) : SlotState :=
  ⟨s.frames.map Slot.ofFrame, s.started⟩

namespace Reader

/-! ## Reading with slots -/

/-- The slot of an element in an open one. -/
def slotIn (r : Reader) (parent : Slot) (tag : String) : Except Stop Slot :=
  match parent.kind with
  | .database => ((r.topRole tag).mapError fun e => .read (.shape e)).map (Slot.ofRole tag)
  | kind =>
    match parent.needTable with
    | .error stop => .error stop
    | .ok t =>
      match kind with
      | .wrapper =>
        if Text.sameName tag t.name then .ok ⟨tag, .row, some t, none, [], ""⟩
        else .error (.read (.shape (.wrongRow t.name parent.tag tag)))
      | .row => ((cellRole t parent.cells tag).mapError .read).map (Slot.ofRole tag)
      | _ => .error (.read (.shape (.nested parent.tag tag)))

/-- An element begins. -/
def startSlot (r : Reader) (s : SlotState) (tag : String) :
    Except Stop (SlotState × Option ReadItem) :=
  match s.slots with
  | [] =>
    if s.started then .error (.read (.shape (.afterDatabase tag)))
    else
      match r.rootRole tag with
      | .error e => .error (.read (.shape e))
      | .ok role => .ok (⟨[.ofRole tag role], true⟩, none)
  | parent :: outer =>
    match parent.checkText with
    | .error stop => .error stop
    | .ok () =>
      match r.slotIn parent tag with
      | .error stop => .error stop
      | .ok slot => .ok (⟨slot :: { parent with text := "" } :: outer, true⟩, slot.announced)

/-- Characters come. -/
def charactersInSlot (s : SlotState) (text : String) : SlotState :=
  match s.slots with
  | [] => s
  | slot :: outer => { s with slots := { slot with text := slot.text ++ text } :: outer }

/-- An element ends. -/
def finishSlot (r : Reader) (s : SlotState) : Except Stop (SlotState × Option ReadItem) :=
  match s.slots with
  | [] => .error .nothingOpen
  | slot :: outer =>
    match slot.kind with
    | .cell =>
      match slot.column, outer with
      | some c, parent :: outer =>
        .ok (⟨{ parent with cells := (c.name, slot.text) :: parent.cells } :: outer, s.started⟩,
          none)
      | _, _ => .error (.read (.shape (.outsideRow slot.tag)))
    | kind =>
      match slot.checkText with
      | .error stop => .error stop
      | .ok () =>
        match kind with
        | .row =>
          match slot.needTable with
          | .error stop => .error stop
          | .ok t =>
            ((rowInsert r.zone t slot.cells).mapError .read).map fun row =>
              (⟨outer, s.started⟩, some (.row row))
        | _ => .ok (⟨outer, s.started⟩, none)

/-- One event. -/
def stepSlots (r : Reader) (s : SlotState) : Event → Except Stop (SlotState × Option ReadItem)
  | .start tag => r.startSlot s tag
  | .text text => .ok (charactersInSlot s text, none)
  | .finish => r.finishSlot s

/-- The state after the events, or what stopped them, and what was told until then. -/
def runSlots (r : Reader) (s : SlotState) : List Event → List ReadItem × Except Stop SlotState
  | [] => ([], .ok s)
  | e :: es =>
    match r.stepSlots s e with
    | .error stop => ([], .error stop)
    | .ok (s, item) =>
      let (items, result) := r.runSlots s es
      (item.toList ++ items, result)

/-- Reads a document from its events: what is told, and what stopped the reading. -/
def readSlots (r : Reader) (reading : Reading) : List ReadItem × Option Stop :=
  match r.runSlots .initial reading.events with
  | (items, .error stop) => (items, some stop)
  | (items, .ok s) =>
    if !reading.wellFormed then (items, some (.read (.shape .malformed)))
    else if s.started then (items, none)
    else (items, some (.read (.shape .noDatabase)))

end Reader

variable {s s' : ReadState} {item : Option ReadItem} {es : List Event}

namespace Reader

variable {r : Reader}

/-! ## The two readers -/

/-- The result of a step of the reader, in slots. -/
def slotsOf : Except ReadError (ReadState × Option ReadItem) →
    Except Stop (SlotState × Option ReadItem)
  | .ok (s, item) => .ok (s.inSlots, item)
  | .error e => .error (.read e)

theorem ofFrame_new (tag : String) (role : Role) :
    Slot.ofFrame ⟨tag, role, ""⟩ = Slot.ofRole tag role := by
  cases role <;> rfl

theorem checkText_ofFrame (f : Frame) :
    (Slot.ofFrame f).checkText = f.checkText.mapError fun e => .read (.shape e) := by
  unfold Slot.checkText Frame.checkText
  have htag : (Slot.ofFrame f).tag = f.tag := by
    unfold Slot.ofFrame Slot.ofRole
    cases f.role <;> rfl
  have htext : (Slot.ofFrame f).text = f.text := rfl
  rw [htag, htext]
  dsimp only
  split <;> rfl

theorem slotIn_ofFrame (f : Frame) (tag : String) :
    r.slotIn (Slot.ofFrame f) tag
      = ((r.roleIn f tag).mapError .read).map (Slot.ofRole tag) := by
  obtain ⟨parentTag, role, text⟩ := f
  cases role with
  | database =>
      change ((r.topRole tag).mapError _).map _ = (((r.topRole tag).mapError _).mapError _).map _
      cases r.topRole tag <;> rfl
  | wrapper t =>
      change (if Text.sameName tag t.name then _ else _) = Except.map _ (Except.mapError _
        (if Text.sameName tag t.name then _ else _))
      split <;> rfl
  | row t cells => rfl
  | cell t c => rfl

theorem announced_ofRole (tag : String) (role : Role) :
    (Slot.ofRole tag role).announced = announced role := by
  cases role <;> rfl

/-- A start is the same for both readers, in any state. -/
theorem startSlot_inSlots (s : ReadState) (tag : String) :
    r.startSlot s.inSlots tag = slotsOf (r.start s tag) := by
  obtain ⟨frames, started⟩ := s
  unfold startSlot start
  cases frames with
  | nil =>
      cases started with
      | true => rfl
      | false => cases r.rootRole tag <;> simp [ReadState.inSlots, slotsOf, ofFrame_new]
  | cons parent outer =>
      simp only [ReadState.inSlots, List.map_cons, checkText_ofFrame, slotIn_ofFrame]
      cases parent.checkText with
      | error e => rfl
      | ok _ =>
          cases r.roleIn parent tag with
          | error e => rfl
          | ok role =>
              simp only [Outcome.mapError_ok, Except.map, slotsOf, announced_ofRole,
                ReadState.inSlots, List.map_cons, ofFrame_new tag role]
              rfl

theorem charactersInSlot_inSlots (s : ReadState) (text : String) :
    charactersInSlot s.inSlots text = (characters s text).inSlots := by
  obtain ⟨frames, started⟩ := s
  cases frames <;> rfl

/-- An end is the same for both readers where the stack has its shape and an element is open. -/
theorem finishSlot_inSlots (hs : Stacked s.frames) (hopen : s.frames ≠ []) :
    r.finishSlot s.inSlots = slotsOf (r.finish s) := by
  obtain ⟨frames, started⟩ := s
  unfold finishSlot finish
  -- outside the shape a slot could lack its table, and the readers would stop with other errors
  cases hs with
  | nothing => exact absurd rfl hopen
  | database tag text =>
      simp only [ReadState.inSlots, List.map_cons, checkText_ofFrame]
      cases Frame.checkText ⟨tag, .database, text⟩ <;> rfl
  | wrapper tag text rootTag rootText t =>
      simp only [ReadState.inSlots, List.map_cons, checkText_ofFrame]
      cases Frame.checkText ⟨tag, .wrapper t, text⟩ <;> rfl
  | @row tag text t cells outer hcells houter =>
      simp only [ReadState.inSlots, List.map_cons, checkText_ofFrame]
      cases Frame.checkText ⟨tag, .row t cells, text⟩ with
      | error e => rfl
      | ok _ =>
          change Except.map _ ((rowInsert r.zone t cells).mapError _)
            = slotsOf (Except.map _ (rowInsert r.zone t cells))
          cases rowInsert r.zone t cells <;> rfl
  | cell => rfl

/-- **One event is the same for both readers** where the stack has its shape and the event is
due. -/
theorem stepSlots_inSlots {e : Event} (hs : Stacked s.frames) (hdue : Due s (e :: es)) :
    r.stepSlots s.inSlots e = slotsOf (r.step s e) := by
  cases e with
  | start tag =>
      rw [stepSlots, step]
      exact startSlot_inSlots s tag
  | text text =>
      rw [stepSlots, charactersInSlot_inSlots]
      rfl
  | finish =>
      rw [stepSlots, step]
      exact finishSlot_inSlots hs hdue.open_of_finish

end Reader

end Tablekeep.Backup
