import Tablekeep.Text.Digits

/-!
# Days of the Gregorian calendar

A `Date` is a year, a month and a day. The days of the years 1 to 9999 are numbered from 1 on:
`Date.number` counts them and `Date.ofNumber` finds them again. Arithmetic on moments goes through
these numbers.
-/

namespace Tablekeep.Calendar

/-! ## Years and months -/

/-- The year has a twenty-ninth of February. -/
def isLeap (year : Nat) : Bool :=
  year % 4 = 0 && (year % 100 ≠ 0 || year % 400 = 0)

/-- The lengths of the months of a year. -/
def monthLengths (year : Nat) : List Nat :=
  [31, if isLeap year then 29 else 28, 31, 30, 31, 30, 31, 31, 30, 31, 30, 31]

/-- The number of days in a month; zero if there is no such month. -/
def daysInMonth (year month : Nat) : Nat :=
  if month = 0 then 0 else (monthLengths year).getD (month - 1) 0

/-- The number of days before the first of January. -/
def daysBeforeYear (year : Nat) : Nat :=
  let past := year - 1
  past * 365 + past / 4 - past / 100 + past / 400

/-- The number of days of the year before the first of the month. -/
def daysBeforeMonth (year month : Nat) : Nat :=
  ((monthLengths year).take (month - 1)).foldr (· + ·) 0

/-- The first and the last year. -/
def firstYear : Nat := 1
@[inherit_doc firstYear]
def lastYear : Nat := 9999

/-- The number of days in all years. -/
def totalDays : Nat := daysBeforeYear (lastYear + 1)

/-! ## Dates -/

/-- A day. -/
structure Date where
  year : Nat
  month : Nat
  day : Nat
  deriving DecidableEq, Repr

namespace Date

/-- The month is there and has the day, in a year that is counted. -/
def isValid (d : Date) : Bool :=
  firstYear ≤ d.year && d.year ≤ lastYear && 1 ≤ d.month && d.month ≤ 12
    && 1 ≤ d.day && d.day ≤ daysInMonth d.year d.month

/-- The position of a day, where the first day of the year 1 is number one. -/
def number (d : Date) : Nat :=
  daysBeforeYear d.year + daysBeforeMonth d.year d.month + d.day

/-- The month and day of the day that has `left` days before it in the months still to come. -/
def monthAndDay (month left : Nat) : List Nat → Nat × Nat
  | [] => (month, left + 1)
  | length :: rest =>
    if left < length then (month, left + 1) else monthAndDay (month + 1) (left - length) rest

/-- The day with the given number. The days before it are cut into cycles of four hundred, one
hundred, four and one years; the last day of a long cycle would start a cycle too many. -/
def ofNumber (n : Nat) : Date :=
  let past := n - 1
  let n400 := past / 146097
  let past := past % 146097
  let n100 := past / 36524
  let past := past % 36524
  let n4 := past / 1461
  let past := past % 1461
  let n1 := past / 365
  let left := past % 365
  let year := n400 * 400 + n100 * 100 + n4 * 4 + n1 + 1
  if n1 = 4 ∨ n100 = 4 then ⟨year - 1, 12, 31⟩
  else
    let (month, day) := monthAndDay 1 left (monthLengths year)
    ⟨year, month, day⟩

/-- The position of a day in its week; Monday is zero. -/
def weekday (d : Date) : Nat :=
  (d.number + 6) % 7

/-- The number of the Monday of the first week of a year, the one that holds its first Thursday. -/
def firstMonday (year : Nat) : Nat :=
  let newYear : Date := ⟨year, 1, 1⟩
  newYear.number + (if newYear.weekday ≤ 3 then 0 else 7) - newYear.weekday

/-- The year has fifty-three weeks. -/
def hasLongWeeks (year : Nat) : Bool :=
  let newYear : Date := ⟨year, 1, 1⟩
  newYear.weekday = 3 || (newYear.weekday = 2 && isLeap year)

/-- The day of a week of a year, where Monday is day one; nothing if there is no such week or day.
The last week of the last year may reach beyond it. -/
def ofWeek? (year week day : Nat) : Option Date :=
  if year < firstYear then none
  else if week = 0 ∨ 53 < week ∨ (week = 53 ∧ !hasLongWeeks year) then none
  else if day = 0 ∨ 7 < day then none
  else some (ofNumber (firstMonday year + (week - 1) * 7 + day - 1))

/-- The four digits of the year, the month and the day between hyphens. -/
def toText (d : Date) : String :=
  Text.decimalWide 4 d.year ++ "-" ++ Text.decimalWide 2 d.month ++ "-" ++ Text.decimalWide 2 d.day

/-- The year as it is, the month and the day between hyphens. -/
def toStamp (d : Date) : String :=
  Text.decimal d.year ++ "-" ++ Text.decimalWide 2 d.month ++ "-" ++ Text.decimalWide 2 d.day

end Date

end Tablekeep.Calendar
