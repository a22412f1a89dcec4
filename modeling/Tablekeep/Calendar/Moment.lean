import Tablekeep.Calendar.Date
import Tablekeep.Text.Quoted

/-!
# Moments and spans of time

A `Moment` is a day, a time of day and, if it is known, how far the clock is ahead of universal
time. To move a moment from one clock to another it is turned into microseconds since the first
moment of the calendar and back; a moment that leaves the years 1 to 9999 on the way is an error.

A moment without an offset is read on the clock that is given, and without any clock on the one of
the system, which shows universal time. The system clock has to look a day back to see which of two
offsets was in force, so it cannot place the first day of the calendar.
-/

namespace Tablekeep.Calendar

/-! ## Time of day and spans -/

/-- A time of day. -/
structure TimeOfDay where
  hour : Nat
  minute : Nat
  second : Nat
  micro : Nat
  deriving DecidableEq, Repr

/-- A span of time in microseconds. -/
structure Span where
  micros : Int
  deriving DecidableEq, Repr

/-- Microseconds in a second, an hour and a day. -/
def secondMicros : Nat := 1000000
@[inherit_doc secondMicros]
def dayMicros : Nat := 86400 * secondMicros

/-- A point and six digits for the microseconds, if there are any. -/
def microText (micro : Nat) : String :=
  if micro = 0 then "" else "." ++ Text.decimalWide 6 micro

namespace TimeOfDay

/-- Midnight. -/
def midnight : TimeOfDay := ⟨0, 0, 0, 0⟩

/-- The microseconds since midnight. -/
def micros (t : TimeOfDay) : Nat :=
  ((t.hour * 60 + t.minute) * 60 + t.second) * secondMicros + t.micro

/-- The time of day so many microseconds after midnight. -/
def ofMicros (n : Nat) : TimeOfDay :=
  let seconds := n / secondMicros
  ⟨seconds / 3600, seconds / 60 % 60, seconds % 60, n % secondMicros⟩

/-- Hours, minutes and seconds between colons. -/
def toStamp (t : TimeOfDay) : String :=
  Text.decimalWide 2 t.hour ++ ":" ++ Text.decimalWide 2 t.minute ++ ":"
    ++ Text.decimalWide 2 t.second

/-- The time with its microseconds, if there are any. -/
def toText (t : TimeOfDay) : String :=
  t.toStamp ++ microText t.micro

end TimeOfDay

/-- The days, if there are any, and the time; the days of a negative span are rounded down. -/
def Span.toText (s : Span) : String :=
  let days := Int.fdiv s.micros dayMicros
  let t := TimeOfDay.ofMicros (Int.toNat (Int.fmod s.micros dayMicros))
  let dayText :=
    if days = 0 then ""
    else Text.decimalInt days ++ (if days.natAbs = 1 then " day, " else " days, ")
  dayText ++ Text.decimal t.hour ++ ":" ++ Text.decimalWide 2 t.minute ++ ":"
    ++ Text.decimalWide 2 t.second ++ microText t.micro

/-! ## Faults -/

/-- Why a text is no moment or a moment cannot be moved. -/
inductive Fault where
  | notAMoment (text : String)
  | noSuchYear (year : Nat)
  | noSuchMonth
  | noSuchDay
  | noSuchHour
  | noSuchMinute
  | noSuchSecond
  /-- The offset is a whole day or more. -/
  | noSuchOffset (offset : Span)
  /-- The moment would leave the years 1 to 9999. -/
  | outOfRange
  deriving DecidableEq, Repr

/-- The parts of a span by name, those that are not zero. -/
def spanParts (s : Span) : List String :=
  let days := Int.fdiv s.micros dayMicros
  let rest := Int.fmod s.micros dayMicros
  let part (name : String) (n : Int) := if n = 0 then [] else [name ++ "=" ++ Text.decimalInt n]
  part "days" days ++ part "seconds" (Int.fdiv rest secondMicros)
    ++ part "microseconds" (Int.fmod rest secondMicros)

/-- The wording of a fault. -/
def Fault.message : Fault → String
  | notAMoment text => "Invalid isoformat string: " ++ Text.quoted text
  | noSuchYear year => "year " ++ Text.decimal year ++ " is out of range"
  | noSuchMonth => "month must be in 1..12"
  | noSuchDay => "day is out of range for month"
  | noSuchHour => "hour must be in 0..23"
  | noSuchMinute => "minute must be in 0..59"
  | noSuchSecond => "second must be in 0..59"
  | noSuchOffset offset =>
    "offset must be a timedelta strictly between -timedelta(hours=24) and timedelta(hours=24), "
      ++ "not datetime.timedelta(" ++ Text.join ", " (spanParts offset) ++ ")."
  | outOfRange => "date value out of range"

/-! ## Moments -/

/-- A day and a time on some clock. -/
structure Moment where
  date : Date
  time : TimeOfDay
  /-- The microseconds by which the clock is ahead of universal time, if the moment says so. -/
  offset : Option Int
  deriving DecidableEq, Repr

namespace Moment

/-- The microseconds that the clock shows since the first moment of the calendar. -/
def ticks (m : Moment) : Int :=
  ((m.date.number - 1 : Nat) : Int) * dayMicros + m.time.micros

/-- The moment at which a clock shows so many microseconds. -/
def ofTicks (offset : Option Int) (ticks : Int) : Except Fault Moment :=
  if ticks < 0 ∨ (totalDays : Int) * dayMicros ≤ ticks then .error .outOfRange
  else
    let n := ticks.toNat
    .ok ⟨Date.ofNumber (n / dayMicros + 1), TimeOfDay.ofMicros (n % dayMicros), offset⟩

/-- The same moment in universal time. A moment without an offset is read on the clock `zone`
microseconds ahead, or on the clock of the system. -/
def toUniversal (zone : Option Int) (m : Moment) : Except Fault Moment :=
  match m.offset, zone with
  | some offset, _ => ofTicks (some 0) (m.ticks - offset)
  | none, some offset => ofTicks (some 0) (m.ticks - offset)
  | none, none =>
    if m.ticks < dayMicros then .error (.noSuchYear 0) else ofTicks (some 0) m.ticks

/-- The same moment on the clock `zone` microseconds ahead of universal time, or on the clock of the
system. Both the universal time and the result have to lie in the calendar. -/
def toZone (zone : Option Int) (m : Moment) : Except Fault Moment := do
  let u ← m.toUniversal zone
  ofTicks (some (zone.getD 0)) (u.ticks + zone.getD 0)

/-- The day and the time around a `T`, without microseconds and offset. -/
def toStamp (m : Moment) : String :=
  m.date.toStamp ++ "T" ++ m.time.toStamp

/-- An offset as hours and minutes with a sign, and seconds and microseconds if there are any. -/
def offsetText (offset : Int) : String :=
  let t := TimeOfDay.ofMicros offset.natAbs
  (if offset < 0 then "-" else "+") ++ Text.decimalWide 2 t.hour ++ ":"
    ++ Text.decimalWide 2 t.minute
    ++ (if t.second = 0 && t.micro = 0 then "" else ":" ++ Text.decimalWide 2 t.second)
    ++ microText t.micro

/-- The day, the time and the offset. -/
def toText (m : Moment) : String :=
  m.date.toText ++ " " ++ m.time.toText ++ (m.offset.map offsetText).getD ""

end Moment

end Tablekeep.Calendar
