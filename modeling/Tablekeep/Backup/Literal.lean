import Tablekeep.Definition.Basic
import Tablekeep.Calendar.Reading

/-!
# From the text of a cell to a literal

The text of a cell, without its markup, becomes a literal of the statement that inserts the row.
Texts and timestamps are quoted; numbers are taken over as they stand. A cell without text is null
where the column allows it.
-/

namespace Tablekeep.Backup

/-- Why the text of a cell is no value of its column. -/
inductive LiteralError where
  /-- Large objects cannot be restored. -/
  | blob (column : String)
  | timestamp (fault : Calendar.Fault)
  deriving DecidableEq, Repr

/-- The wording of the error. -/
def LiteralError.message : LiteralError → String
  | blob column => "Could not restore column " ++ column ++ ": BLOB values are not restorable"
  | timestamp fault => fault.message

/-- Backslashes and apostrophes are written twice. -/
def doubled (c : Char) : List Char :=
  if c = '\\' ∨ c = '\'' then [c, c] else [c]

/-- The text with its backslashes and apostrophes doubled. -/
def doubleQuotes (s : String) : String :=
  String.ofList (s.toList.flatMap doubled)

/-- The text without line feeds. -/
def dropLineFeeds (s : String) : String :=
  String.ofList (s.toList.filter (· ≠ '\n'))

/-- A text between apostrophes. -/
def inApostrophes (s : String) : String :=
  "'" ++ s ++ "'"

/-- A final `Z` as an offset of zero. -/
def withNumericOffset (s : String) : String :=
  if Text.endsWith s "Z" then String.ofList s.toList.dropLast ++ "+00:00" else s

/-- The moment that the text of a cell denotes; without an offset it is universal time. -/
def timestamp (s : String) : Except Calendar.Fault Calendar.Moment :=
  (Calendar.Moment.ofText (withNumericOffset (Text.trim s))).map fun m =>
    { m with offset := some (m.offset.getD 0) }

/-- The literal for the text of a cell in a column; `none` stands for an element without text.
Timestamps are restored on the clock `zone`. -/
def literal (zone : Option Int) (c : Column) (raw : Option String) :
    Except LiteralError String :=
  let text := raw.getD ""
  if c.isBlob then .error (.blob c.name)
  else if text.isEmpty && c.isNullable then .ok "null"
  else
    match c.kind with
    | .text => .ok (inApostrophes (dropLineFeeds (doubleQuotes text)))
    | .timestamp =>
      match timestamp text with
      | .error fault => .error (.timestamp fault)
      | .ok m =>
        match m.toZone zone with
        | .error fault => .error (.timestamp fault)
        | .ok m => .ok (inApostrophes m.toStamp)
    | .boolean => .ok (if text = "true" then "1" else "0")
    | _ => .ok text

end Tablekeep.Backup
