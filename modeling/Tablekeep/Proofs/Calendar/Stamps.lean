import Tablekeep.Calendar.Reading
import Tablekeep.Proofs.Calendar.Clock

/-!
# Stamps are read back

A stamp is a day and a time in fields of fixed width, once the year has four digits; with an offset
after it or without one, it is one of the many texts that are read as moments, and so is the day on
its own. This file goes through the reading of such a text field by field. The digits stay symbolic
and all else is known, so each step of the reading is decided.
-/

namespace Tablekeep.Calendar

/-! ## Digits -/

/-- What the reader of moments asks of a character is answered the same for all digits. -/
theorem digitChar_spec : ∀ d < 10, Text.isDigit d.digitChar = true
    ∧ Text.digitValue d.digitChar = d ∧ startsOffset d.digitChar = false
    ∧ d.digitChar ≠ 'W' ∧ Text.isBlank d.digitChar = false := by
  decide

/-- The characters of a number of two digits. -/
def twoDigits (n : Nat) : List Char :=
  [(n / 10).digitChar, (n % 10).digitChar]

/-- The characters of a number of four digits. -/
def fourDigits (n : Nat) : List Char :=
  [(n / 1000).digitChar, (n / 100 % 10).digitChar, (n / 10 % 10).digitChar, (n % 10).digitChar]

theorem toList_decimalWide_two {n : Nat} (h : n < 100) :
    (Text.decimalWide 2 n).toList = twoDigits n := by
  rw [Text.decimalWide, String.toList_ofList, twoDigits]
  by_cases hsmall : n < 10
  · rw [Nat.toDigits_of_lt_base hsmall, Nat.div_eq_of_lt hsmall, Nat.mod_eq_of_lt hsmall]
    rfl
  · rw [Nat.toDigits_of_base_le (by decide) (by omega), Nat.toDigits_of_lt_base (by omega)]
    rfl

theorem toList_decimal_four {n : Nat} (hle : 1000 ≤ n) (hlt : n < 10000) :
    (Text.decimal n).toList = fourDigits n := by
  rw [Text.decimal, String.toList_ofList, fourDigits,
    Nat.toDigits_of_base_le (by decide) (by omega),
    Nat.toDigits_of_base_le (by decide) (show 10 ≤ n / 10 by omega),
    Nat.toDigits_of_base_le (by decide) (show 10 ≤ n / 10 / 10 by omega),
    Nat.toDigits_of_lt_base (show n / 10 / 10 / 10 < 10 by omega),
    show n / 10 / 10 / 10 = n / 1000 by omega, show n / 10 / 10 = n / 100 by omega]
  rfl

theorem field?_twoDigits {n : Nat} (h : n < 100) (rest : List Char) :
    field? 2 0 (twoDigits n ++ rest) = some (n, rest) := by
  obtain ⟨htens, htens', -⟩ := digitChar_spec (n / 10) (by omega)
  obtain ⟨hones, hones', -⟩ := digitChar_spec (n % 10) (by omega)
  have hsum : 10 * (10 * 0 + n / 10) + n % 10 = n := by omega
  simp only [twoDigits, List.cons_append, List.nil_append, field?, htens, htens', hones, hones',
    hsum, ↓reduceIte]

theorem field?_fourDigits {n : Nat} (h : n < 10000) (rest : List Char) :
    field? 4 0 (fourDigits n ++ rest) = some (n, rest) := by
  obtain ⟨h1, h1', -⟩ := digitChar_spec (n / 1000) (by omega)
  obtain ⟨h2, h2', -⟩ := digitChar_spec (n / 100 % 10) (by omega)
  obtain ⟨h3, h3', -⟩ := digitChar_spec (n / 10 % 10) (by omega)
  obtain ⟨h4, h4', -⟩ := digitChar_spec (n % 10) (by omega)
  have hsum : 10 * (10 * (10 * (10 * 0 + n / 1000) + n / 100 % 10) + n / 10 % 10) + n % 10 = n := by
    omega
  simp only [fourDigits, List.cons_append, List.nil_append, field?, h1, h1', h2, h2', h3, h3', h4,
    h4', hsum, ↓reduceIte]

/-! ## The day and the time -/

theorem daysInMonth_le (year month : Nat) : daysInMonth year month ≤ 31 := by
  unfold daysInMonth
  split
  · omega
  · by_cases hlt : month - 1 < 12
    · unfold monthLengths
      rw [List.getD_eq_getElem?_getD]
      split
      · revert hlt
        generalize month - 1 = i
        revert i
        decide
      · revert hlt
        generalize month - 1 = i
        revert i
        decide
    · have hlength : (monthLengths year).length = 12 := rfl
      rw [List.getD_eq_getElem?_getD, List.getElem?_eq_none (by omega)]
      decide

/-- The characters of a day. -/
def dayChars (d : Date) : List Char :=
  fourDigits d.year ++ '-' :: (twoDigits d.month ++ '-' :: twoDigits d.day)

/-- The characters of a time. -/
def timeChars (t : TimeOfDay) : List Char :=
  twoDigits t.hour ++ ':' :: (twoDigits t.minute ++ ':' :: twoDigits t.second)

theorem writtenDay?_dayChars {d : Date} (hyear : d.year < 10000) (hmonth : d.month < 100)
    (hday : d.day < 100) :
    writtenDay? (dayChars d) = some (.ofMonth d.year d.month d.day) := by
  have hend := field?_twoDigits hday []
  rw [List.append_nil] at hend
  simp only [writtenDay?, dayChars, field?_fourDigits hyear, Option.bind_eq_bind, Option.bind_some,
    List.head?_cons, ↓reduceIte, List.drop_one, List.tail_cons]
  -- a week would begin with its letter where the month has a digit
  split
  · rename_i heq
    have hw := (digitChar_spec (d.month / 10) (by omega)).2.2.2.1
    exact absurd (List.cons.inj heq).1 hw
  · rw [field?_twoDigits hmonth]
    simp only [after?, ↓reduceIte, Option.bind_some, hend]
    rfl

/-- A field with a colon after it, where colons are expected or nothing is yet. -/
theorem timeFields?_colon {left n : Nat} {colons : Option Bool} {fields : List Nat}
    {rest : List Char} (hn : n < 100) (hcolons : colons.getD true = true) (hrest : rest ≠ []) :
    timeFields? (left + 1) colons fields (twoDigits n ++ ':' :: rest)
      = timeFields? left (some true) (n :: fields) rest := by
  obtain ⟨c, cs, rfl⟩ := List.exists_cons_of_ne_nil hrest
  rw [timeFields?, field?_twoDigits hn]
  simp [hcolons]

theorem writtenTime?_timeChars {t : TimeOfDay} (h : t.Valid) :
    writtenTime? (timeChars t) = some (⟨t.hour, t.minute, t.second, 0⟩, false) := by
  have hhour := h.hour
  have hminute := h.minute
  have hsecond := h.second
  have hend := field?_twoDigits (show t.second < 100 by omega) []
  rw [List.append_nil] at hend
  have hfields : timeFields? 3 none [] (timeChars t)
      = some ([t.second, t.minute, t.hour], 0, false) := by
    rw [timeChars, timeFields?_colon (by omega) rfl (by simp [twoDigits]),
      timeFields?_colon (by omega) rfl (by simp [twoDigits]), timeFields?, hend]
    rfl
  rw [writtenTime?, hfields]
  rfl

theorem toList_toStamp {m : Moment} (hd : m.date.isValid = true) (hyear : 1000 ≤ m.date.year)
    (ht : m.time.Valid) : m.toStamp.toList = dayChars m.date ++ 'T' :: timeChars m.time := by
  obtain ⟨hone, hlast, hmonth, hmonths, hday, hdays⟩ := Date.isValid_iff.mp hd
  have hle := daysInMonth_le m.date.year m.date.month
  have hhour := ht.hour
  have hminute := ht.minute
  have hsecond := ht.second
  have hhyphen : "-".toList = ['-'] := rfl
  have hcolon : ":".toList = [':'] := rfl
  have hmark : "T".toList = ['T'] := rfl
  simp only [Moment.toStamp, Date.toStamp, TimeOfDay.toStamp, String.toList_append,
    toList_decimal_four hyear (show m.date.year < 10000 by omega),
    toList_decimalWide_two (show m.date.month < 100 by omega),
    toList_decimalWide_two (show m.date.day < 100 by omega),
    toList_decimalWide_two (show m.time.hour < 100 by omega),
    toList_decimalWide_two (show m.time.minute < 100 by omega),
    toList_decimalWide_two (show m.time.second < 100 by omega), hhyphen, hcolon, hmark, dayChars,
    timeChars]
  simp

/-! ## The whole text -/

theorem startsOffset_timeChars {t : TimeOfDay} (h : t.Valid) :
    ∀ c ∈ timeChars t, startsOffset c = false := by
  have hhour := h.hour
  have hminute := h.minute
  have hsecond := h.second
  have hdigits : ∀ n < 100, ∀ c ∈ twoDigits n, startsOffset c = false := by
    intro n hn
    simp only [twoDigits, List.forall_mem_cons]
    exact ⟨(digitChar_spec _ (by omega)).2.2.1, (digitChar_spec _ (by omega)).2.2.1, by simp⟩
  intro c hc
  simp only [timeChars, List.mem_append, List.mem_cons] at hc
  rcases hc with hc | rfl | hc | rfl | hc
  · exact hdigits _ (by omega) c hc
  · decide
  · exact hdigits _ (by omega) c hc
  · decide
  · exact hdigits _ (by omega) c hc

/-- The offset of universal time, in numbers. -/
def zeroOffset : List Char := ['+', '0', '0', ':', '0', '0']

theorem writtenClock?_timeChars {t : TimeOfDay} (h : t.Valid) :
    writtenClock? (timeChars t ++ zeroOffset) = some (⟨t.hour, t.minute, t.second, 0⟩, some 0) := by
  have hplain : ∀ c ∈ timeChars t, (!startsOffset c) = true := fun c hc => by
    rw [startsOffset_timeChars h c hc]
    rfl
  have hplus : (!startsOffset '+') = false := by decide
  have htake : (timeChars t ++ zeroOffset).takeWhile (fun c => !startsOffset c) = timeChars t := by
    rw [List.takeWhile_append_of_pos hplain, zeroOffset, List.takeWhile_cons, hplus]
    simp
  have hdrop : (timeChars t ++ zeroOffset).dropWhile (fun c => !startsOffset c) = zeroOffset := by
    rw [List.dropWhile_append_of_pos hplain, zeroOffset, List.dropWhile_cons, hplus]
    simp
  simp only [writtenClock?, htake, hdrop, writtenTime?_timeChars h, Option.bind_eq_bind,
    Option.bind_some]
  rw [zeroOffset]
  rfl

theorem length_dayChars (d : Date) : (dayChars d).length = 10 := rfl

/-- A time without an offset ends with the text. -/
theorem writtenClock?_timeChars_naive {t : TimeOfDay} (h : t.Valid) :
    writtenClock? (timeChars t ++ []) = some (⟨t.hour, t.minute, t.second, 0⟩, none) := by
  have hplain : ∀ c ∈ timeChars t, (!startsOffset c) = true := fun c hc => by
    rw [startsOffset_timeChars h c hc]
    rfl
  have htake : (timeChars t ++ []).takeWhile (fun c => !startsOffset c) = timeChars t := by
    rw [List.takeWhile_append_of_pos hplain, List.takeWhile_nil, List.append_nil]
  have hdrop : (timeChars t ++ []).dropWhile (fun c => !startsOffset c) = [] := by
    rw [List.dropWhile_append_of_pos hplain, List.dropWhile_nil]
  simp only [writtenClock?, htake, hdrop, writtenTime?_timeChars h,
    Option.bind_eq_bind, Option.bind_some]
  rfl

/-- The day at the beginning of a text ends where its length says. -/
theorem dayLength?_dayChars {d : Date} (hmonth : d.month < 100) (rest : List Char) :
    dayLength? (dayChars d ++ rest) = some 10 := by
  have hlength : (dayChars d ++ rest).length = 10 + rest.length := by
    rw [List.length_append, length_dayChars]
  have hhyphen : (dayChars d ++ rest)[4]? = some '-' := rfl
  have hmonth' : (dayChars d ++ rest)[5]? = some (d.month / 10).digitChar := rfl
  have hnoweek : some (d.month / 10).digitChar ≠ some 'W' := by
    rw [Ne, Option.some.injEq]
    exact (digitChar_spec _ (by omega)).2.2.2.1
  rw [dayLength?, hlength, if_neg (by omega), if_pos hhyphen, hmonth', if_neg hnoweek]

theorem take_dayChars (d : Date) (rest : List Char) :
    (dayChars d ++ rest).take 10 = dayChars d := by
  rw [← length_dayChars d, List.take_left]

theorem drop_dayChars (d : Date) (rest : List Char) : (dayChars d ++ rest).drop 10 = rest := by
  rw [← length_dayChars d, List.drop_left]

theorem written?_stamp {d : Date} {t : TimeOfDay} {rest : List Char} {offset : Option Int}
    (hyear : d.year < 10000) (hmonth : d.month < 100) (hday : d.day < 100)
    (hclock : writtenClock? (timeChars t ++ rest)
      = some (⟨t.hour, t.minute, t.second, 0⟩, offset)) :
    written? (dayChars d ++ 'T' :: (timeChars t ++ rest))
      = some (.ofMonth d.year d.month d.day, ⟨t.hour, t.minute, t.second, 0⟩, offset) := by
  have hlong : ¬ (dayChars d ++ 'T' :: (timeChars t ++ rest)).length < 7 := by
    rw [List.length_append, length_dayChars]
    omega
  -- the mark after the day may be any
  simp only [written?, hlong, dayLength?_dayChars hmonth, take_dayChars, drop_dayChars,
    writtenDay?_dayChars hyear hmonth hday, hclock, Option.bind_eq_bind, Option.bind_some,
    ↓reduceIte]
  rfl

/-- A day on its own is its midnight. -/
theorem written?_dayChars {d : Date} (hyear : d.year < 10000) (hmonth : d.month < 100)
    (hday : d.day < 100) :
    written? (dayChars d) = some (.ofMonth d.year d.month d.day, .midnight, none) := by
  have hlength := dayLength?_dayChars hmonth []
  have htake := take_dayChars d []
  have hdrop := drop_dayChars d []
  rw [List.append_nil] at hlength htake hdrop
  have hlong : ¬ (dayChars d).length < 7 := by
    rw [length_dayChars]
    omega
  simp only [written?, hlong, hlength, htake, hdrop, writtenDay?_dayChars hyear hmonth hday,
    Option.bind_eq_bind, Option.bind_some, ↓reduceIte]
  rfl

/-- Nothing is wrong with the fields of a day of the calendar. -/
theorem check_ofMonth {d : Date} (hd : d.isValid = true) (text : String) :
    (WrittenDay.ofMonth d.year d.month d.day).check text = .ok d := by
  obtain ⟨hone, hlast, hmonth, hmonths, hday, hdays⟩ := Date.isValid_iff.mp hd
  have hfirst : firstYear = 1 := rfl
  have hend : lastYear = 9999 := rfl
  rw [WrittenDay.check, if_neg (by omega), if_neg (by omega), if_neg (by omega)]

/-- The parts of a stamp are checked, and nothing is wrong with them. -/
theorem ofText_of_clock {d : Date} {t : TimeOfDay} {rest : List Char} {offset : Option Int}
    (hd : d.isValid = true) (ht : t.Valid) (hoffset : checkOffset offset = .ok offset)
    (hclock : writtenClock? (timeChars t ++ rest)
      = some (⟨t.hour, t.minute, t.second, 0⟩, offset)) {text : String}
    (htext : text.toList = dayChars d ++ 'T' :: (timeChars t ++ rest)) :
    Moment.ofText text = .ok ⟨d, ⟨t.hour, t.minute, t.second, 0⟩, offset⟩ := by
  obtain ⟨hone, hlast, hmonth, hmonths, hday, hdays⟩ := Date.isValid_iff.mp hd
  have hle := daysInMonth_le d.year d.month
  have hhour := ht.hour
  have hminute := ht.minute
  have hsecond := ht.second
  have htime : (⟨t.hour, t.minute, t.second, 0⟩ : TimeOfDay).check
      = .ok ⟨t.hour, t.minute, t.second, 0⟩ := by
    rw [TimeOfDay.check, if_neg (by simpa using hhour), if_neg (by simpa using hminute),
      if_neg (by simpa using hsecond)]
  rw [Moment.ofText, htext, written?_stamp (by omega) (by omega) (by omega) hclock]
  simp only [hoffset, check_ofMonth hd, htime, bind, Except.bind]
  rfl

/-- **The stamp of a moment with the offset of universal time is read back**, without parts of a
second. -/
theorem ofText_stamp {d : Date} {t : TimeOfDay} (hd : d.isValid = true) (ht : t.Valid)
    {text : String}
    (htext : text.toList = dayChars d ++ 'T' :: (timeChars t ++ zeroOffset)) :
    Moment.ofText text = .ok ⟨d, ⟨t.hour, t.minute, t.second, 0⟩, some 0⟩ :=
  ofText_of_clock hd ht (by rw [checkOffset, if_neg (by decide)]) (writtenClock?_timeChars ht) htext

/-- So is a stamp on its own, as a moment without an offset. -/
theorem ofText_toStamp {m : Moment} (hd : m.date.isValid = true) (hyear : 1000 ≤ m.date.year)
    (ht : m.time.Valid) :
    Moment.ofText m.toStamp
      = .ok ⟨m.date, ⟨m.time.hour, m.time.minute, m.time.second, 0⟩, none⟩ := by
  have htext : m.toStamp.toList = dayChars m.date ++ 'T' :: (timeChars m.time ++ []) := by
    rw [toList_toStamp hd hyear ht, List.append_nil]
  exact ofText_of_clock hd ht rfl (writtenClock?_timeChars_naive ht) htext

/-- A day on its own is read as its midnight, without an offset. -/
theorem ofText_dayChars {d : Date} (hd : d.isValid = true) {text : String}
    (htext : text.toList = dayChars d) : Moment.ofText text = .ok ⟨d, .midnight, none⟩ := by
  obtain ⟨-, hlast, -, hmonths, -, hdays⟩ := Date.isValid_iff.mp hd
  have hle := daysInMonth_le d.year d.month
  have htime : TimeOfDay.midnight.check = .ok .midnight := rfl
  rw [Moment.ofText, htext, written?_dayChars (by omega) (by omega) (by omega)]
  simp only [checkOffset, check_ofMonth hd, htime, bind, Except.bind]
  rfl

end Tablekeep.Calendar
