import Tablekeep.Calendar.Date

/-!
# The numbers of days

`Date.ofNumber` finds a day by cutting off cycles of years, and `Date.number` counts the days
before it. On the days of the calendar the first undoes the second, and the second tells
them apart (`Date.number_injective`).

The days of a year are counted in the same way, so the months come first: `monthAndDay`
finds the month and the day in any list of lengths, as long as these have the day.
-/

namespace Tablekeep.Calendar

/-! ## Months -/

/-- The total of some lengths. -/
def total (lengths : List Nat) : Nat :=
  lengths.foldr (· + ·) 0

theorem daysBeforeMonth_eq (year month : Nat) :
    daysBeforeMonth year month = total ((monthLengths year).take (month - 1)) := rfl

/-- The month that is found is one of the list, it has the day, and as many days come before. -/
theorem monthAndDay_spec {lengths : List Nat} {first left month day : Nat}
    (hleft : left < total lengths)
    (h : Date.monthAndDay first left lengths = (month, day)) :
    first ≤ month ∧ month < first + lengths.length ∧ 1 ≤ day
      ∧ day ≤ lengths.getD (month - first) 0
      ∧ total (lengths.take (month - first)) + day = left + 1 := by
  induction lengths generalizing first left with
  | nil => exact absurd hleft (Nat.not_lt_zero left)
  | cons length rest ih =>
      rw [Date.monthAndDay] at h
      split at h
      · rename_i hlt
        cases h
        simp only [Nat.sub_self, List.getD_cons_zero, List.take_zero, total, List.foldr_nil,
          List.length_cons]
        omega
      · rename_i hge
        have hsum : total (length :: rest) = length + total rest := rfl
        obtain ⟨hle, hlt, hone, hday, htotal⟩ := ih (by omega) h
        have hsucc : month - first = (month - (first + 1)) + 1 := by omega
        have htake : total ((length :: rest).take (month - first))
            = length + total (rest.take (month - (first + 1))) := by
          rw [hsucc, List.take_succ_cons]
          rfl
        refine ⟨by omega, ?_, hone, ?_, by omega⟩
        · rw [List.length_cons]
          omega
        · rw [hsucc, List.getD_cons_succ]
          exact hday

theorem total_monthLengths (year : Nat) :
    total (monthLengths year) = if isLeap year then 366 else 365 := by
  unfold monthLengths
  split <;> rfl

/-! ## Years -/

/-- The days before a year that is given by its place in the cycles. -/
theorem daysBeforeYear_cycles (year : Nat) {a b c d : Nat}
    (h : year = a * 400 + b * 100 + c * 4 + d + 1) (hb : b < 4) (hc : c < 25) (hd : d < 4) :
    daysBeforeYear year = a * 146097 + b * 36524 + c * 1461 + d * 365 := by
  subst h
  simp only [daysBeforeYear]
  omega

/-- Every fourth year is a leap year, unless it ends a hundred. -/
theorem isLeap_four {year a b c : Nat} (h : year = a * 400 + b * 100 + c * 4) (hc : 0 < c)
    (hc' : c < 25) : isLeap year = true := by
  subst h
  simp only [isLeap, Bool.and_eq_true, Bool.or_eq_true, decide_eq_true_eq]
  omega

theorem isLeap_four_hundred {year a : Nat} (h : year = a * 400) : isLeap year = true := by
  subst h
  simp only [isLeap, Bool.and_eq_true, Bool.or_eq_true, decide_eq_true_eq]
  omega

theorem daysBeforeMonth_december {year : Nat} (h : isLeap year = true) :
    daysBeforeMonth year 12 = 335 := by
  simp [daysBeforeMonth, monthLengths, h]

theorem daysInMonth_december (year : Nat) : daysInMonth year 12 = 31 := rfl

theorem total_take_add (lengths : List Nat) {i j : Nat} (h : i < j) :
    total (lengths.take i) + lengths.getD i 0 ≤ total (lengths.take j) := by
  induction lengths generalizing i j with
  | nil => simp [total]
  | cons length lengths ih =>
      obtain ⟨j, rfl⟩ := Nat.exists_eq_add_of_lt (Nat.zero_lt_of_lt h)
      rw [Nat.zero_add] at h ⊢
      cases i with
      | zero => simp [total]
      | succ i =>
          have hrest := ih (show i < j by omega)
          simp only [total, List.take_succ_cons, List.foldr_cons, List.getD_cons_succ] at hrest ⊢
          omega

/-- Centuries are made of groups of four years, so that there is one number to divide. -/
theorem daysBeforeYear_eq (year : Nat) :
    daysBeforeYear year
      = (year - 1) * 365 + (year - 1) / 4 - (year - 1) / 4 / 25 + (year - 1) / 4 / 25 / 4 := by
  simp only [daysBeforeYear, Nat.div_div_eq_div_mul]

theorem isLeap_iff (year : Nat) :
    isLeap year = true ↔ year % 4 = 0 ∧ (year / 4 % 25 ≠ 0 ∨ year / 4 / 25 % 4 = 0) := by
  simp only [isLeap, Bool.and_eq_true, Bool.or_eq_true, decide_eq_true_eq]
  omega

theorem daysBeforeYear_succ {year : Nat} (h : 1 ≤ year) :
    daysBeforeYear (year + 1) = daysBeforeYear year + if isLeap year then 366 else 365 := by
  obtain ⟨past, rfl⟩ := Nat.exists_eq_add_of_le' h
  rw [daysBeforeYear_eq, daysBeforeYear_eq]
  simp only [isLeap_iff, Nat.add_sub_cancel]
  split <;> omega

theorem daysBeforeYear_mono {year year' : Nat} (hone : 1 ≤ year) (h : year ≤ year') :
    daysBeforeYear year ≤ daysBeforeYear year' := by
  induction h with
  | refl => exact Nat.le_refl _
  | step hle ih =>
      rw [daysBeforeYear_succ (Nat.le_trans hone hle)]
      exact Nat.le_trans ih (Nat.le_add_right _ _)

/-! ## Days -/

namespace Date

theorem isValid_iff {d : Date} :
    d.isValid = true ↔ 1 ≤ d.year ∧ d.year ≤ 9999 ∧ 1 ≤ d.month ∧ d.month ≤ 12 ∧ 1 ≤ d.day
      ∧ d.day ≤ daysInMonth d.year d.month := by
  simp only [isValid, Bool.and_eq_true, decide_eq_true_eq, and_assoc]
  rfl

theorem number_december {year : Nat} (h : isLeap year = true) :
    (⟨year, 12, 31⟩ : Date).number = daysBeforeYear year + 366 := by
  simp only [number, daysBeforeMonth_december h, Nat.add_assoc]

/-- The day with a number of the calendar is in the calendar, and it has this number. -/
theorem ofNumber_spec {n : Nat} (hpos : 1 ≤ n) (hle : n ≤ totalDays) :
    (ofNumber n).isValid = true ∧ (ofNumber n).number = n := by
  have htotal : totalDays = 3652059 := by decide
  rw [htotal] at hle
  simp only [ofNumber]
  generalize ha : (n - 1) / 146097 = a
  generalize hb : (n - 1) % 146097 / 36524 = b
  generalize hc : (n - 1) % 146097 % 36524 / 1461 = c
  generalize hd : (n - 1) % 146097 % 36524 % 1461 / 365 = d
  generalize he : (n - 1) % 146097 % 36524 % 1461 % 365 = left
  generalize hy : a * 400 + b * 100 + c * 4 + d + 1 = year
  split
  · -- the last day of a leap year, which begins no further year
    rename_i hlast
    rcases hlast with hd4 | hb4
    · have hleap : isLeap (year - 1) = true :=
        isLeap_four (a := a) (b := b) (c := c + 1) (by omega) (by omega) (by omega)
      have hbefore := daysBeforeYear_cycles (year - 1) (a := a) (b := b) (c := c) (d := 3)
        (by omega) (by omega) (by omega) (by omega)
      simp only [isValid_iff, number_december hleap, hbefore, daysInMonth_december]
      omega
    · have hleap : isLeap (year - 1) = true := isLeap_four_hundred (a := a + 1) (by omega)
      have hbefore := daysBeforeYear_cycles (year - 1) (a := a) (b := 3) (c := 24) (d := 3)
        (by omega) (by omega) (by omega) (by omega)
      simp only [isValid_iff, number_december hleap, hbefore, daysInMonth_december]
      omega
  · -- any other day, whose year begins with the days that are left over
    rename_i hother
    have hbefore := daysBeforeYear_cycles year hy.symm (by omega) (by omega) (by omega)
    have hleft : left < total (monthLengths year) := by
      rw [total_monthLengths]
      split <;> omega
    cases hmonth : monthAndDay 1 left (monthLengths year) with
    | mk month day =>
        obtain ⟨hone, hmonths, hday, hlength, hcount⟩ := monthAndDay_spec hleft hmonth
        have htwelve : (monthLengths year).length = 12 := rfl
        have hmonth : daysInMonth year month = (monthLengths year).getD (month - 1) 0 :=
          if_neg (by omega)
        simp only [isValid_iff, number, hbefore, daysBeforeMonth_eq, hmonth]
        omega

/-! ## Days apart -/

variable {d e : Date}

/-- The days of a month are over before a later month of the year begins, -/
theorem day_le_of_month (hd : d.isValid = true) {month : Nat} (h : d.month < month) :
    daysBeforeMonth d.year d.month + d.day ≤ daysBeforeMonth d.year month := by
  obtain ⟨-, -, hmonth, -, -, hday⟩ := isValid_iff.mp hd
  have htotal := total_take_add (monthLengths d.year) (i := d.month - 1) (j := month - 1)
    (by omega)
  rw [daysInMonth, if_neg (by omega)] at hday
  rw [daysBeforeMonth_eq, daysBeforeMonth_eq]
  omega

/-- and those of a year before a later year does. -/
theorem number_le_of_year (hd : d.isValid = true) {year : Nat} (h : d.year < year) :
    d.number ≤ daysBeforeYear year := by
  obtain ⟨hone, -, -, hmonths, -, -⟩ := isValid_iff.mp hd
  have hmonth : daysBeforeMonth d.year d.month + d.day ≤ daysBeforeMonth d.year 13 :=
    day_le_of_month hd (by omega)
  have hyear : daysBeforeMonth d.year 13 = if isLeap d.year then 366 else 365 :=
    total_monthLengths d.year
  have hnext := daysBeforeYear_succ hone
  have hlater := daysBeforeYear_mono (Nat.le_add_left 1 _) (show d.year + 1 ≤ year by omega)
  rw [hyear] at hmonth
  rw [number]
  omega

/-- The day is earlier, by year, month and day. -/
def Before (d e : Date) : Prop :=
  d.year < e.year
    ∨ d.year = e.year ∧ (d.month < e.month ∨ d.month = e.month ∧ d.day < e.day)

theorem before_trichotomy (d e : Date) : d.Before e ∨ d = e ∨ e.Before d := by
  obtain ⟨year, month, day⟩ := d
  obtain ⟨year', month', day'⟩ := e
  simp only [Before, mk.injEq]
  omega

theorem number_lt_of_before (hd : d.isValid = true) (he : e.isValid = true) (h : d.Before e) :
    d.number < e.number := by
  obtain ⟨year, month, day⟩ := d
  obtain ⟨year', month', day'⟩ := e
  have hday : 1 ≤ day' := (isValid_iff.mp he).2.2.2.2.1
  rcases h with hyear | ⟨hyear, hmonth | ⟨hmonth, hless⟩⟩
  · have hbefore := number_le_of_year hd hyear
    simp only [number] at hbefore ⊢
    omega
  · obtain rfl : year = year' := hyear
    have hbefore := day_le_of_month hd hmonth
    simp only [number] at hbefore ⊢
    omega
  · obtain rfl : year = year' := hyear
    obtain rfl : month = month' := hmonth
    exact Nat.add_lt_add_left hless _

/-- Days come in the order of their numbers. -/
theorem number_lt_iff (hd : d.isValid = true) (he : e.isValid = true) :
    d.number < e.number ↔ d.Before e := by
  refine ⟨fun h => ?_, number_lt_of_before hd he⟩
  rcases before_trichotomy d e with hlt | rfl | hgt
  · exact hlt
  · exact absurd h (Nat.lt_irrefl _)
  · exact absurd h (Nat.lt_asymm (number_lt_of_before he hd hgt))

/-- Two days with one number are one day. -/
theorem number_injective (hd : d.isValid = true) (he : e.isValid = true)
    (h : d.number = e.number) : d = e := by
  rcases before_trichotomy d e with hlt | heq | hgt
  · exact absurd h (Nat.ne_of_lt (number_lt_of_before hd he hlt))
  · exact heq
  · exact absurd h (Nat.ne_of_gt (number_lt_of_before he hd hgt))

/-- So a day is found again by its number. -/
theorem ofNumber_number (hd : d.isValid = true) : 1 ≤ d.number ∧ ofNumber d.number = d := by
  obtain ⟨-, hyear, -, -, hday, -⟩ := isValid_iff.mp hd
  have hone : 1 ≤ d.number := by
    rw [number]
    omega
  have htotal : d.number ≤ totalDays := number_le_of_year hd (Nat.lt_succ_of_le hyear)
  obtain ⟨hvalid, hnumber⟩ := ofNumber_spec hone htotal
  exact ⟨hone, number_injective hvalid hd hnumber⟩

end Date

end Tablekeep.Calendar
