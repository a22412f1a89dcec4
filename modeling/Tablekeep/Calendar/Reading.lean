import Tablekeep.Calendar.Moment

/-!
# Reading moments

The texts that are read are those of ISO 8601 with some freedom: a day of a month or of a week, with
or without hyphens; any one character; a time with or without colons, of which the later fields may
be missing; and an offset written like a time after its sign.

Where the day ends is decided first, from the characters that follow the year. Then the day, the
time and the offset are read on their own, and at last the fields are checked against the calendar.
-/

namespace Tablekeep.Calendar

/-! ## Fields -/

/-- The number that the next `width` digits denote, and the rest. -/
def field? : Nat → Nat → List Char → Option (Nat × List Char)
  | 0, n, cs => some (n, cs)
  | _ + 1, _, [] => none
  | width + 1, n, c :: cs =>
    if Text.isDigit c then field? width (10 * n + Text.digitValue c) cs else none

/-- The rest after the character that has to come next. -/
def after? (c : Char) : List Char → Option (List Char)
  | [] => none
  | d :: ds => if d = c then some ds else none

/-- The character at a position is a digit. -/
def digitAt (cs : List Char) (i : Nat) : Bool :=
  (cs[i]?.map Text.isDigit).getD false

/-! ## The day -/

/-- How many characters the day takes: seven to ten, by the hyphens and the `W` of a week. After a
week without hyphens the digits are counted, because times come in pairs of digits. Nothing if the
text ends in the hyphen of a day. -/
def dayLength? (cs : List Char) : Option Nat :=
  if cs.length = 7 then some 7
  else if cs[4]? = some '-' then
    if cs[5]? = some 'W' then
      if cs[8]? = some '-' then
        if cs.length = 9 then none else if digitAt cs 10 then some 8 else some 10
      else some 8
    else some 10
  else if cs[4]? = some 'W' then
    let stop := 7 + ((cs.drop 7).takeWhile Text.isDigit).length
    if stop < 9 then some stop else if stop % 2 = 0 then some 7 else some 8
  else some 8

/-- A day as it is written, not yet checked against the calendar. -/
inductive WrittenDay where
  | ofMonth (year month day : Nat)
  | ofWeek (year week day : Nat)
  deriving DecidableEq, Repr

/-- The day that a text denotes; a week without a day means its Monday. -/
def writtenDay? (cs : List Char) : Option WrittenDay := do
  let (year, cs) ← field? 4 0 cs
  let hyphens := cs.head? = some '-'
  let cs := if hyphens then cs.drop 1 else cs
  match cs with
  | 'W' :: cs =>
    let (week, cs) ← field? 2 0 cs
    if cs.isEmpty then return .ofWeek year week 1
    let cs ← if hyphens then after? '-' cs else some cs
    let (day, _) ← field? 1 0 cs
    return .ofWeek year week day
  | cs =>
    let (month, cs) ← field? 2 0 cs
    let cs ← if hyphens then after? '-' cs else some cs
    let (day, cs) ← field? 2 0 cs
    if cs.isEmpty then return .ofMonth year month day else none

/-! ## The time -/

/-- The fraction of a second in microseconds: of at least one digit the first six count, and
further digits are skipped. Also tells whether anything is left over. -/
def fraction? (cs : List Char) : Option (Nat × Bool) :=
  let counted := cs.take 6
  if cs.isEmpty || !counted.all Text.isDigit then none
  else
    let micro := Text.ofDigits (counted ++ List.replicate (6 - counted.length) '0')
    some (micro, !((cs.drop 6).dropWhile Text.isDigit).isEmpty)

/-- The fields still to be read, at most `left` of them, after those in `fields`, which are last
first: hour, minute and second, and then the microseconds. `colons` says whether fields are
separated; it is decided after the first one. A single ASCII character may be left over. -/
def timeFields? : Nat → Option Bool → List Nat → List Char → Option (List Nat × Nat × Bool)
  | 0, _, fields, cs => (fraction? cs).map fun (micro, more) => (fields, micro, more)
  | left + 1, colons, fields, cs => do
    let (n, cs) ← field? 2 0 cs
    match cs with
    | [] => return (n :: fields, 0, false)
    | [c] => if c.toNat < 0x80 then return (n :: fields, 0, true) else none
    | c :: rest =>
      let colons := colons.getD (c = ':')
      if colons && c = ':' then timeFields? left (some colons) (n :: fields) rest
      else if c = '.' || c = ',' then
        (fraction? rest).map fun (micro, more) => (n :: fields, micro, more)
      else if !colons then timeFields? left (some colons) (n :: fields) (c :: rest)
      else none

/-- The time that a text denotes, with missing fields zero, and whether a character is left over. -/
def writtenTime? (cs : List Char) : Option (TimeOfDay × Bool) :=
  (timeFields? 3 none [] cs).map fun (fields, micro, more) =>
    let fields := fields.reverse
    (⟨fields.getD 0 0, fields.getD 1 0, fields.getD 2 0, micro⟩, more)

/-- A character that starts the offset. -/
def startsOffset (c : Char) : Bool :=
  c = '+' || c = '-' || c = 'Z'

/-- The time and the offset in microseconds that a text denotes. A character left over between the
time and its offset is passed over. -/
def writtenClock? (cs : List Char) : Option (TimeOfDay × Option Int) := do
  let (time, more) ← writtenTime? (cs.takeWhile fun c => !startsOffset c)
  match cs.dropWhile fun c => !startsOffset c with
  | [] => if more then none else return (time, none)
  | 'Z' :: rest => if rest.isEmpty then return (time, some 0) else none
  | sign :: rest =>
    let (offset, more) ← writtenTime? rest
    if more then none
    else return (time, some (if sign = '-' then -(offset.micros : Int) else offset.micros))

/-! ## The moment -/

/-- The day, if the calendar has it. -/
def WrittenDay.check (text : String) : WrittenDay → Except Fault Date
  | ofMonth year month day =>
    if year < firstYear ∨ lastYear < year then .error (.noSuchYear year)
    else if month < 1 ∨ 12 < month then .error .noSuchMonth
    else if day < 1 ∨ daysInMonth year month < day then .error .noSuchDay
    else .ok ⟨year, month, day⟩
  | ofWeek year week day =>
    match Date.ofWeek? year week day with
    | none => .error (.notAMoment text)
    | some d => if lastYear < d.year then .error (.noSuchYear d.year) else .ok d

/-- The time, if a day has it. -/
def TimeOfDay.check (t : TimeOfDay) : Except Fault TimeOfDay :=
  if 24 ≤ t.hour then .error .noSuchHour
  else if 60 ≤ t.minute then .error .noSuchMinute
  else if 60 ≤ t.second then .error .noSuchSecond
  else .ok t

/-- The offset, if it is less than a day. -/
def checkOffset : Option Int → Except Fault (Option Int)
  | none => .ok none
  | some offset =>
    if dayMicros ≤ offset.natAbs then .error (.noSuchOffset ⟨offset⟩) else .ok (some offset)

/-- The parts of a text that denotes a moment. -/
def written? (cs : List Char) : Option (WrittenDay × TimeOfDay × Option Int) := do
  if cs.length < 7 then none
  let length ← dayLength? cs
  let day ← writtenDay? (cs.take length)
  match cs.drop length with
  | [] => return (day, .midnight, none)
  | _ :: cs =>
    let (time, offset) ← writtenClock? cs
    return (day, time, offset)

/-- The moment that a text denotes. -/
def Moment.ofText (text : String) : Except Fault Moment :=
  match written? text.toList with
  | none => .error (.notAMoment text)
  | some (day, time, offset) => do
    let offset ← checkOffset offset
    let date ← day.check text
    let time ← time.check
    return ⟨date, time, offset⟩

end Tablekeep.Calendar
