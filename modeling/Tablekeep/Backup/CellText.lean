import Tablekeep.Definition.Basic
import Tablekeep.Cell.Value
import Tablekeep.Backup.Escape

/-!
# Cells in backups and digests

The same value is written in two ways. A backup holds what is needed to restore the value, and a
timestamp is written in universal time. A digest is taken of a canonical text, in which a timestamp
is its day, so that it does not depend on the clock of the machine.
-/

namespace Tablekeep.Backup

/-- What stands for a large object. -/
def blobMarker : String := "BLOB value not exported"

/-- The two truth values in a document. -/
def truthText (b : Bool) : String :=
  if b then "true" else "false"

/-- The text of a value that is not null in the element of a column. A timestamp without an offset
is read on the clock `zone`. Only timestamps can fail: they may leave the calendar. -/
def cellText (zone : Option Int) (kind : ValueKind) (v : Value) :
    Except Calendar.Fault String :=
  match kind, v with
  | .binary, _ => .ok blobMarker
  | .boolean, v => .ok (truthText v.isTrue)
  | .timestamp, .moment m => (m.toUniversal zone).map fun u => u.toStamp ++ "Z"
  | .text, v => .ok (escape (Text.trimEnd v.display))
  | _, .text s => .ok (escape (Text.trimEnd s))
  | _, v => .ok v.display

/-- The canonical text of a value that is not null. -/
def canonicalText (kind : ValueKind) (v : Value) : String :=
  escape <|
    match kind, v with
    | .boolean, v => truthText v.isTrue
    | .timestamp, .moment m => m.date.toStamp
    | .timestamp, .date d => d.toStamp
    | _, v => Text.trimEnd v.display

end Tablekeep.Backup
