import Tablekeep.Number.Double
import Tablekeep.Calendar.Moment
import Tablekeep.Text.Quoted

/-!
# Values of a configuration

A configuration file is a table of values, and tables are values too. The keys of a table stay in
the order in which they were written.
-/

namespace Tablekeep.Toml

/-- A value in a configuration. -/
inductive Value where
  | text (s : String)
  | bool (b : Bool)
  | int (n : Int)
  | float (x : Double)
  | date (d : Calendar.Date)
  | moment (m : Calendar.Moment)
  | time (t : Calendar.TimeOfDay)
  | array (items : List Value)
  | table (entries : List (String × Value))

/-- The entries of a table in order. -/
abbrev Table := List (String × Value)

/-! ## Text -/

/-- Numbers between commas. -/
def numbers (ns : List Nat) : String :=
  Text.join ", " (ns.map Text.decimal)

/-- The fields of a time, without zeros at the end after the minutes. -/
def clockFields (t : Calendar.TimeOfDay) : List Nat :=
  if t.micro ≠ 0 then [t.hour, t.minute, t.second, t.micro]
  else if t.second ≠ 0 then [t.hour, t.minute, t.second]
  else [t.hour, t.minute]

/-- A zone inside an array or a table. -/
def zoneInner (offset : Int) : String :=
  if offset = 0 then "datetime.timezone.utc"
  else
    "datetime.timezone(datetime.timedelta("
      ++ Text.join ", " (Calendar.spanParts ⟨offset⟩) ++ "))"

/-- A moment inside an array or a table. -/
def momentInner (m : Calendar.Moment) : String :=
  "datetime.datetime("
    ++ numbers ([m.date.year, m.date.month, m.date.day] ++ clockFields m.time)
    ++ (m.offset.map fun o => ", tzinfo=" ++ zoneInner o).getD "" ++ ")"

mutual

/-- The text of a value inside an array or a table, where texts are quoted. -/
def Value.inner : Value → String
  | .text s => Text.quoted s
  | .bool b => if b then "True" else "False"
  | .int n => Text.decimalInt n
  | .float x => x.toText
  | .date d => "datetime.date(" ++ numbers [d.year, d.month, d.day] ++ ")"
  | .moment m => momentInner m
  | .time t => "datetime.time(" ++ numbers (clockFields t) ++ ")"
  | .array items => "[" ++ Text.join ", " (innerItems items) ++ "]"
  | .table entries => "\x7b" ++ Text.join ", " (innerEntries entries) ++ "\x7d"

/-- The texts of the items of an array. -/
def innerItems : List Value → List String
  | [] => []
  | v :: vs => v.inner :: innerItems vs

/-- The texts of the entries of a table. -/
def innerEntries : List (String × Value) → List String
  | [] => []
  | (key, v) :: rest => (Text.quoted key ++ ": " ++ v.inner) :: innerEntries rest

end

/-- The text of a value. -/
def Value.display : Value → String
  | .text s => s
  | .date d => d.toText
  | .moment m => m.toText
  | .time t => t.toText
  | v => v.inner

end Tablekeep.Toml
