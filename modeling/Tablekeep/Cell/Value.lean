import Tablekeep.Text.Utf8
import Tablekeep.Number.Double
import Tablekeep.Number.Decimal
import Tablekeep.Calendar.Moment

/-!
# The values that a server answers with

A row is a list of named cells, and a cell holds one of the values below. Every value has one text,
`Value.display`, from which backups and digests are made; what the value is for depends on the
column and is decided elsewhere.
-/

namespace Tablekeep

/-- A value in a cell. -/
inductive Value where
  | null
  | bool (b : Bool)
  | int (n : Int)
  | float (x : Double)
  | decimal (x : Decimal)
  | bytes (bs : List UInt8)
  /-- Bytes in a buffer that can be changed. -/
  | buffer (bs : List UInt8)
  /-- Bytes seen through a window. -/
  | window (bs : List UInt8)
  | date (d : Calendar.Date)
  | moment (m : Calendar.Moment)
  | time (t : Calendar.TimeOfDay)
  | span (s : Calendar.Span)
  | text (s : String)
  deriving DecidableEq, Repr

/-- A named value of a row. -/
structure Cell where
  name : String
  value : Value
  deriving DecidableEq, Repr

/-- The cells of a row in the order in which the server gives them. -/
abbrev Row := List Cell

namespace Cell

/-- The cell holds nothing. -/
def isNull (c : Cell) : Bool :=
  c.value == .null

end Cell

/-! ## Bytes as text -/

namespace Bytes

/-- One byte between quotes: printable ASCII as it is, and all else escaped. -/
def shownByte (escapeQuote : Bool) (quote : Char) (b : UInt8) : String :=
  let n := b.toNat
  let c := Char.ofNat n
  if c = '\\' then "\\\\"
  else if c = '\'' ∧ (escapeQuote ∨ quote = '\'') then "\\'"
  else if c = '\t' then "\\t"
  else if c = '\n' then "\\n"
  else if c = '\r' then "\\r"
  else if 0x20 ≤ n ∧ n < 0x7F then String.ofList [c]
  else "\\x" ++ Text.hexLowerWide 2 n

/-- The quote around bytes: an apostrophe unless they hold one and no quotation mark. -/
def quoteFor (bs : List UInt8) : Char :=
  if bs.contains 0x27 && !bs.contains 0x22 then '"' else '\''

/-- The bytes between quotes. -/
def quoted (escapeQuote : Bool) (bs : List UInt8) : String :=
  let quote := quoteFor bs
  let mark := String.ofList [quote]
  "b" ++ mark ++ Text.join "" (bs.map (shownByte escapeQuote quote)) ++ mark

/-- Some byte is not zero. -/
def isSet (bs : List UInt8) : Bool :=
  bs.any (· != 0)

end Bytes

namespace Value

/-- The text of a value. Integers have as many digits as they need: a limit to the digits that an
integer may be written with, such as 4300, is not part of this. -/
def display : Value → String
  | null => "None"
  | bool b => if b then "True" else "False"
  | int n => Text.decimalInt n
  | float x => x.toText
  | decimal x => x.toText
  | bytes bs => Bytes.quoted false bs
  | buffer bs => "bytearray(" ++ Bytes.quoted true bs ++ ")"
  | window _ => "<memory>"
  | date d => d.toText
  | moment m => m.toText
  | time t => t.toText
  | span s => s.toText
  | text s => s

/-- The truth of a value: packed bytes are true if a bit is set, and a text is true if it is a one
or the word, in any letter case and with blanks around it. -/
def isTrue : Value → Bool
  | bool b => b
  | bytes bs => Bytes.isSet bs
  | buffer bs => Bytes.isSet bs
  | v =>
    let s := Text.lower (Text.trim v.display)
    s == "1" || s == "true"

/-- What a value looks like to someone who does not know its column: up to eight bytes may be a
packed field of bits. -/
def observedType : Value → String
  | bool _ => "BOOLEAN"
  | int _ => "INTEGER"
  | float _ => "DOUBLE"
  | decimal _ => "DECIMAL"
  | date _ => "TIMESTAMP"
  | moment _ => "TIMESTAMP"
  | bytes bs => if bs.length ≤ 8 then "UINT64" else "BINARY"
  | buffer bs => if bs.length ≤ 8 then "UINT64" else "BINARY"
  | window bs => if bs.length ≤ 8 then "UINT64" else "BINARY"
  | _ => "TEXT"

end Value

end Tablekeep
