import Tablekeep.Backup.Literal
import Tablekeep.Backup.RowInsert
import Tablekeep.Markup.Document
import Tablekeep.Text.Quoted

/-!
# Reading a backup

A document is read from its events alone, with a stack of the elements that are open. What an
element is depends on the element around it: under the database there are wrappers and bare rows,
in a wrapper there are rows, in a row there are cells, and in a cell there is text. Everything else
is refused where it is met, so rows that came before it have been read.

Text outside cells has to be blank. It is looked at when the next element starts or when the element
around it ends, and so every piece of text is looked at once.
-/

namespace Tablekeep.Backup

/-! ## What can be wrong with a document -/

/-- A document that does not have the shape of a backup. -/
inductive ShapeError where
  /-- The markup is at fault. -/
  | malformed
  /-- There is no element. -/
  | noDatabase
  /-- There is an element after the outermost one. -/
  | afterDatabase (tag : String)
  | wrongDatabase (database tag : String)
  | unknownTable (tag : String)
  /-- An element in a wrapper is no row of its table. -/
  | wrongRow (table wrapper tag : String)
  | unknownColumn (table tag : String)
  | repeatedColumn (table column : String)
  /-- A cell holds an element. -/
  | nested (cell tag : String)
  /-- A cell that is not in a row. -/
  | outsideRow (tag : String)
  | strayText (text tag : String)
  | missingValue (table column : String)
  /-- A row of a table that has nothing but large objects. -/
  | nothingToRestore (table : String)
  deriving DecidableEq, Repr

/-- The wording of the error. -/
def ShapeError.message : ShapeError → String
  | malformed => "Malformed backup XML"
  | noDatabase => "Backup document has no database element"
  | afterDatabase tag => "Unexpected element <" ++ tag ++ "> after database element"
  | wrongDatabase database tag =>
    "Expected database element <" ++ database ++ ">, found <" ++ tag ++ ">"
  | unknownTable tag => "Could not find table: " ++ tag
  | wrongRow table wrapper tag =>
    "Expected <" ++ table ++ "> row in <" ++ wrapper ++ ">, found <" ++ tag ++ ">"
  | unknownColumn table tag => "Table " ++ table ++ " has no column " ++ tag
  | repeatedColumn table column =>
    "Column " ++ column ++ " appears twice in a " ++ table ++ " row"
  | nested cell tag => "Unexpected element <" ++ tag ++ "> inside column <" ++ cell ++ ">"
  | outsideRow tag => "Column <" ++ tag ++ "> outside a row"
  | strayText text tag => "Unexpected text " ++ Text.quoted text ++ " in <" ++ tag ++ ">"
  | missingValue table column =>
    "Row of table " ++ table ++ " has no value for non-nullable column " ++ column
  | nothingToRestore table => "Table " ++ table ++ " has no restorable columns"

/-- Why a document was not read to its end. -/
inductive ReadError where
  | shape (error : ShapeError)
  | value (error : LiteralError)
  /-- The document declares an encoding that is not known. -/
  | encoding (name : String)
  deriving DecidableEq, Repr

/-! ## The stack of open elements -/

/-- What an open element stands for. -/
inductive Role where
  | database
  | wrapper (table : Table)
  /-- A row and the texts of its cells so far, the latest first. -/
  | row (table : Table) (cells : List (String × String))
  | cell (table : Table) (column : Column)
  deriving DecidableEq, Repr

/-- The table that an element belongs to. -/
def Role.table? : Role → Option Table
  | database => none
  | wrapper t => some t
  | row t _ => some t
  | cell t _ => some t

/-- An open element. -/
structure Frame where
  /-- The name as it is written. -/
  tag : String
  role : Role
  /-- The text since the element began or since the last element in it ended. -/
  text : String
  deriving DecidableEq, Repr

/-- How far the reading of a document is. -/
structure ReadState where
  /-- The open elements, innermost first. -/
  frames : List Frame
  /-- The outermost element has begun. -/
  started : Bool
  deriving DecidableEq, Repr

/-- Nothing has been read. -/
def ReadState.initial : ReadState := ⟨[], false⟩

/-- What the reading of a document tells its user. -/
inductive ReadItem where
  /-- A wrapper begins. -/
  | table (name : String)
  | row (r : RowInsert)
  deriving DecidableEq, Repr

/-- What a document is read against. -/
structure Reader where
  database : Database
  /-- How wrappers are named after tables. -/
  plural : String → String
  /-- The zone in which timestamps are restored. -/
  zone : Option Int

namespace Frame

/-- The text that is due in the element has to be blank. -/
def checkText (f : Frame) : Except ShapeError Unit :=
  let text := Text.trim f.text
  if text.isEmpty then .ok () else .error (.strayText text f.tag)

end Frame

/-! ## Rows -/

/-- The columns of a row with their literals, in the order of the columns. A column without a cell
is left out, if it can be null. -/
def rowPairs (zone : Option Int) (t : Table) (cells : List (String × String)) :
    List Column → Except ReadError (List (String × String))
  | [] => .ok []
  | c :: cs =>
    match cells.lookup c.name with
    | none =>
      if c.isNullable then rowPairs zone t cells cs
      else .error (.shape (.missingValue t.name c.name))
    | some text =>
      match literal zone c (some text) with
      | .error e => .error (.value e)
      | .ok l => (rowPairs zone t cells cs).map ((c.name, l) :: ·)

/-- The row to be inserted. A row without cells has null in every column. -/
def rowInsert (zone : Option Int) (t : Table) (cells : List (String × String)) :
    Except ReadError RowInsert :=
  match rowPairs zone t cells t.selected with
  | .error e => .error e
  | .ok [] =>
    if t.selected.isEmpty then .error (.shape (.nothingToRestore t.name))
    else .ok ⟨t.name, t.selected.map fun c => (c.name, "null"), t.hasIdentity⟩
  | .ok (p :: ps) => .ok ⟨t.name, p :: ps, t.hasIdentity⟩

namespace Reader

/-! ## Elements -/

/-- The role of an element right under the database. The plural of a table wins over the name of
another one. -/
def topRole (r : Reader) (tag : String) : Except ShapeError Role :=
  match r.database.tables.find? fun t => Text.sameName (r.plural t.name) tag with
  | some t => .ok (.wrapper t)
  | none =>
    match r.database.table? tag with
    | some t => .ok (.row t [])
    | none => .error (.unknownTable tag)

/-- The role of an element in a row. -/
def cellRole (t : Table) (cells : List (String × String)) (tag : String) :
    Except ReadError Role :=
  match t.column? tag with
  | none => .error (.shape (.unknownColumn t.name tag))
  | some c =>
    if c.isBlob then .error (.value (.blob tag))
    else if (cells.lookup c.name).isSome then .error (.shape (.repeatedColumn t.name c.name))
    else .ok (.cell t c)

/-- The role of an element in an open one. -/
def roleIn (r : Reader) (parent : Frame) (tag : String) : Except ReadError Role :=
  match parent.role with
  | .database => (r.topRole tag).mapError .shape
  | .wrapper t =>
    if Text.sameName tag t.name then .ok (.row t [])
    else .error (.shape (.wrongRow t.name parent.tag tag))
  | .row t cells => cellRole t cells tag
  | .cell _ _ => .error (.shape (.nested parent.tag tag))

/-- The role of the outermost element. -/
def rootRole (r : Reader) (tag : String) : Except ShapeError Role :=
  if Text.sameName tag r.database.name then .ok .database
  else .error (.wrongDatabase r.database.name tag)

/-- What is told when an element begins. -/
def announced : Role → Option ReadItem
  | .wrapper t => some (.table t.name)
  | _ => none

/-! ## Events -/

/-- An element begins. -/
def start (r : Reader) (s : ReadState) (tag : String) :
    Except ReadError (ReadState × Option ReadItem) :=
  match s.frames with
  | [] =>
    if s.started then .error (.shape (.afterDatabase tag))
    else
      match r.rootRole tag with
      | .error e => .error (.shape e)
      | .ok role => .ok (⟨[⟨tag, role, ""⟩], true⟩, none)
  | parent :: outer =>
    match parent.checkText with
    | .error e => .error (.shape e)
    | .ok () =>
      match r.roleIn parent tag with
      | .error e => .error e
      | .ok role =>
        .ok (⟨⟨tag, role, ""⟩ :: { parent with text := "" } :: outer, true⟩,
          announced role)

/-- Characters come. -/
def characters (s : ReadState) (text : String) : ReadState :=
  match s.frames with
  | [] => s
  | f :: outer => { s with frames := { f with text := f.text ++ text } :: outer }

/-- An element ends. -/
def finish (r : Reader) (s : ReadState) : Except ReadError (ReadState × Option ReadItem) :=
  match s.frames with
  | [] => .error (.shape .malformed)
  | f :: outer =>
    match f.role with
    | .cell _ c =>
      match outer with
      | ⟨tag, .row t cells, text⟩ :: outer =>
        .ok (⟨⟨tag, .row t ((c.name, f.text) :: cells), text⟩ :: outer, s.started⟩, none)
      | _ => .error (.shape (.outsideRow f.tag))
    | role =>
      match f.checkText with
      | .error e => .error (.shape e)
      | .ok () =>
        match role with
        | .row t cells =>
          (rowInsert r.zone t cells).map fun row => (⟨outer, s.started⟩, some (.row row))
        | _ => .ok (⟨outer, s.started⟩, none)

/-- One event. -/
def step (r : Reader) (s : ReadState) :
    Markup.Event → Except ReadError (ReadState × Option ReadItem)
  | .start tag => r.start s tag
  | .text text => .ok (characters s text, none)
  | .finish => r.finish s

/-! ## Documents -/

/-- The state after the events, or the error that stopped them, and what was told until then. -/
def steps (r : Reader) (s : ReadState) :
    List Markup.Event → List ReadItem × Except ReadError ReadState
  | [] => ([], .ok s)
  | e :: es =>
    match r.step s e with
    | .error error => ([], .error error)
    | .ok (s, item) =>
      let (items, result) := r.steps s es
      (item.toList ++ items, result)

end Reader

/-- What was read of a document, and what stopped the reading. -/
structure ReadResult where
  items : List ReadItem
  failure : Option ReadError
  deriving DecidableEq, Repr

namespace ReadResult

/-- The rows that were read. -/
def rows (r : ReadResult) : List RowInsert :=
  r.items.filterMap fun
    | .row r => some r
    | .table _ => none

end ReadResult

namespace Reader

/-- Reads a document from its events. A fault of the markup is met after the events before it. -/
def readEvents (r : Reader) (reading : Markup.Reading) : ReadResult :=
  match r.steps .initial reading.events with
  | (items, .error e) => ⟨items, some e⟩
  | (items, .ok s) =>
    if !reading.wellFormed then ⟨items, some (.shape .malformed)⟩
    else if s.started then ⟨items, none⟩
    else ⟨items, some (.shape .noDatabase)⟩

/-- Reads a document. -/
def read (r : Reader) (bytes : List UInt8) : ReadResult :=
  match Markup.read bytes with
  | .error name => ⟨[], some (.encoding name)⟩
  | .ok reading => r.readEvents reading

end Reader

end Tablekeep.Backup
