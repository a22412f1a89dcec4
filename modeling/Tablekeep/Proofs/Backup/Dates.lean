import Tablekeep.Proofs.Backup.Instants
import Tablekeep.Proofs.Repository.Latest

/-!
# Days in columns of timestamps

A timestamp may come from the server as a day without a time. A moment is moved to universal time
when it is written and to the clock of the restoration when it is read; a day is written as it
stands and read as its midnight in universal time, so it is only moved once. On a clock that is
behind universal time, what is restored is a moment of the day before.

`restored_date` says what the clock shows, on which clocks the day is kept, and on which it is shown
as the moment of its midnight would be.
-/

namespace Tablekeep.Calendar

/-- The first moment of a day, without an offset. -/
def Date.start (d : Date) : Moment := ⟨d, .midnight, none⟩

theorem Date.ticks_start (d : Date) :
    d.start.ticks = ((d.number - 1 : Nat) : Int) * dayMicros := by
  have hmidnight : TimeOfDay.midnight.micros = 0 := rfl
  simp only [Moment.ticks, Date.start, hmidnight, Int.natCast_zero, Int.add_zero]

theorem Moment.midnight_valid : TimeOfDay.midnight.Valid := by
  constructor <;> decide

theorem Date.ofTicks_start {d : Date} (hd : d.isValid = true) :
    Moment.ofTicks none d.start.ticks = .ok d.start :=
  Moment.ofTicks_ticks (m := d.start) hd Moment.midnight_valid none

/-- A year has more days than a clock is off. -/
theorem Date.inYears_start {d : Date} (hd : d.isValid = true)
    (hyear : 1001 ≤ d.year ∧ d.year ≤ 9998) {offset : Int} (hoffset : offset.natAbs < dayMicros) :
    InYears 1000 9999 (d.start.ticks + offset) := by
  obtain ⟨hge, hlt⟩ := (Moment.inYears_iff (by decide) (d.ofTicks_start hd)).mpr hyear
  have hfirst : daysBeforeYear 1000 + 1 ≤ daysBeforeYear 1001 := by decide
  have hlast : daysBeforeYear (9998 + 1) + 1 ≤ daysBeforeYear (9999 + 1) := by decide
  rw [dayMicros_eq] at *
  constructor <;> rw [dayMicros_eq] <;> omega

namespace Moment

variable {m w : Moment}

/-- The day of a moment, counted from the first one, is the number of days in its ticks. -/
theorem days_of_ticks (ht : m.time.Valid) :
    ((m.date.number - 1 : Nat) : Int) = m.ticks / dayMicros := by
  have hmicros := (TimeOfDay.ofMicros_micros ht).1
  rw [Moment.ticks, dayMicros_eq] at *
  omega

/-- **Two moments have one stamp iff they are in the same second.** -/
theorem toStamp_eq_iff (hd : m.date.isValid = true) (hyear : 1000 ≤ m.date.year)
    (ht : m.time.Valid) (hd' : w.date.isValid = true) (hyear' : 1000 ≤ w.date.year)
    (ht' : w.time.Valid) :
    w.toStamp = m.toStamp ↔ w.ticks / secondMicros = m.ticks / secondMicros := by
  have hticks := ticks_toSecond m
  have hticks' := ticks_toSecond w
  have hmicro := Backup.micro_eq_mod ht
  have hmicro' := Backup.micro_eq_mod ht'
  constructor
  · intro hstamp
    have hread := ofText_toStamp hd hyear ht
    rw [← hstamp, ofText_toStamp hd' hyear' ht'] at hread
    obtain ⟨hdate, htime, -⟩ := Moment.mk.inj (Except.ok.inj hread)
    have hsecond : w.toSecond.ticks = m.toSecond.ticks := by
      simp only [Moment.ticks, toSecond, hdate, htime]
    rw [secondMicros_eq] at *
    omega
  · intro hsecond
    have hsame : w.toSecond.ticks = m.toSecond.ticks := by
      rw [secondMicros_eq] at *
      omega
    have hm := ofTicks_ticks (m := m.toSecond) hd (toSecond_valid ht) none
    have hw := ofTicks_ticks (m := w.toSecond) hd' (toSecond_valid ht') none
    rw [hsame, hm] at hw
    obtain ⟨hdate, htime, -⟩ := Moment.mk.inj (Except.ok.inj hw)
    -- parts of a second are not written
    change w.toSecond.date.toStamp ++ "T" ++ w.toSecond.time.toStamp
      = m.toSecond.date.toStamp ++ "T" ++ m.toSecond.time.toStamp
    rw [hdate, htime]

end Moment

end Tablekeep.Calendar

namespace Tablekeep.Backup

open Calendar

variable {zone : Option Int} {c : Column} {d : Date}

/-- The text of a day is read as its midnight in universal time. -/
theorem timestamp_date (hd : d.isValid = true) :
    timestamp d.toText = .ok ⟨d, .midnight, some 0⟩ := by
  obtain ⟨-, hlast, -, hmonths, -, hdays⟩ := Date.isValid_iff.mp hd
  have hle := daysInMonth_le d.year d.month
  have hchars := toList_toText hd
  have hdigit {n : Nat} (hn : n < 10) : Text.isBlank n.digitChar = false :=
    (digitChar_spec n hn).2.2.2.2
  -- it begins and ends in a digit, so nothing is trimmed and no mark of universal time is found
  obtain ⟨cs, hcs⟩ : ∃ cs, d.toText.toList
      = (d.year / 1000).digitChar :: cs ++ [(d.day % 10).digitChar] :=
    ⟨(dayChars d).tail.dropLast, by rw [hchars]; rfl⟩
  have htrim : Text.trim d.toText = d.toText := by
    rw [← String.ofList_toList (s := d.toText), hcs]
    exact trim_ends (hdigit (by omega)) (hdigit (by omega))
  have hmark : withNumericOffset d.toText = d.toText := by
    have hnot : ('Z' == (d.day % 10).digitChar) = false := by
      have : ∀ n < 10, ('Z' == n.digitChar) = false := by decide
      exact this _ (by omega)
    have hends : Text.endsWith d.toText "Z" = false := by
      rw [Text.endsWith, hcs, List.reverse_append, List.reverse_singleton, List.singleton_append]
      change (('Z' == (d.day % 10).digitChar) && _) = false
      rw [hnot, Bool.false_and]
    rw [withNumericOffset, hends]
    rfl
  rw [timestamp, htrim, hmark, ofText_dayChars hd hchars]
  rfl

/-- A clock that is off by less than a day shows the midnight of a day in universal time. -/
theorem exists_toZone_start (hzone : (zone.getD 0).natAbs < dayMicros) (hd : d.isValid = true)
    (hyear : 1001 ≤ d.year ∧ d.year ≤ 9998) :
    ∃ w : Moment, (⟨d, .midnight, some 0⟩ : Moment).toZone zone = .ok w
      ∧ w.At (d.start.ticks + zone.getD 0) ∧ 1000 ≤ w.date.year := by
  have hshown := d.inYears_start hd hyear hzone
  obtain ⟨hpos, hlt⟩ := Moment.range_of_ofTicks (d.ofTicks_start hd)
  obtain ⟨hpos', hlt'⟩ := Moment.bounds_of_inYears hshown
  obtain ⟨w, hw⟩ := Moment.exists_ofTicks (some (zone.getD 0)) (d.start.ticks + zone.getD 0)
    (by omega) hlt'
  obtain ⟨-, hdate, htime, hticks⟩ := Moment.ofTicks_spec hw
  refine ⟨w, ?_, ⟨hdate, htime, hticks⟩, ((Moment.inYears_iff (by decide) hw).mp hshown).1⟩
  exact (Moment.toZone_of_universal (m := ⟨d, .midnight, some 0⟩) rfl hpos hlt).trans hw

/-- The midnight of a day, written and restored on one clock that is off by whole seconds, is
restored as itself. -/
theorem restored_start (hkind : c.kind = .timestamp) (hzone : (zone.getD 0).natAbs < dayMicros)
    (hwhole : (secondMicros : Int) ∣ zone.getD 0) (hd : d.isValid = true)
    (hyear : 1001 ≤ d.year ∧ d.year ≤ 9998) :
    ∃ text, cellText zone .timestamp (.moment d.start) = .ok text
      ∧ literal zone c (some text) = .ok (inApostrophes d.start.toStamp) := by
  have hinstant : d.start.instant zone = d.start.ticks + -zone.getD 0 := by
    rw [Moment.instant, Date.start, Option.none_or, Int.sub_eq_add_neg]
  have huniversal : InYears 1000 9999 (d.start.instant zone) := by
    rw [hinstant]
    exact d.inYears_start hd hyear (by rwa [Int.natAbs_neg])
  have hshown : InYears 1000 9999 (d.start.instant zone + zone.getD 0) := by
    rw [hinstant, Int.neg_add_cancel_right]
    have hstart : InYears 1000 9999 (d.start.ticks + 0) := d.inYears_start hd hyear (by decide)
    rwa [Int.add_zero] at hstart
  obtain ⟨text, -, w, hwritten, -, ⟨hliteral, -⟩, hnaive⟩ :=
    restored_instant hkind huniversal hshown
  obtain ⟨hdate, htime⟩ := hnaive hd Moment.midnight_valid rfl rfl hwhole
  refine ⟨text, hwritten, ?_⟩
  rw [hliteral, Moment.toStamp, hdate, htime]
  rfl

/--
**A day is restored as the moment that the clock shows at its midnight in universal time.**

So the day is kept on a clock that is not behind, and is the day before on a clock that is. The
stamp is that of the midnight of the day only on a clock that is ahead by less than a second. The
moment of the same midnight, in contrast, has its stamp restored on any clock that is off by whole
seconds.
-/
theorem restored_date (hkind : c.kind = .timestamp) (hzone : (zone.getD 0).natAbs < dayMicros)
    (hd : d.isValid = true) (hyear : 1001 ≤ d.year ∧ d.year ≤ 9998) :
    ∃ w : Moment,
      (cellText zone .timestamp (.date d) = .ok d.toText
        ∧ literal zone c (some d.toText) = .ok (inApostrophes w.toStamp)
        ∧ w.At (d.start.ticks + zone.getD 0))
      ∧ (w.date = d ↔ 0 ≤ zone.getD 0)
      ∧ (w.date.number + 1 = d.number ↔ zone.getD 0 < 0)
      ∧ (w.toStamp = d.start.toStamp ↔ 0 ≤ zone.getD 0 ∧ zone.getD 0 < secondMicros)
      ∧ ((secondMicros : Int) ∣ zone.getD 0 →
        ∃ text, cellText zone .timestamp (.moment d.start) = .ok text
          ∧ literal zone c (some text) = .ok (inApostrophes d.start.toStamp)) := by
  have hne : d.toText.toList ≠ [] := by
    rw [toList_toText hd]
    exact List.cons_ne_nil _ _
  obtain ⟨w, hw, hat, hshown⟩ := exists_toZone_start hzone hd hyear
  have hdays := Moment.days_of_ticks hat.time
  have hnumber := (Date.ofNumber_number hd).1
  have hnumber' := (Date.ofNumber_number hat.date).1
  rw [hat.ticks, Date.ticks_start] at hdays
  have hday : w.date = d ↔ w.date.number = d.number :=
    ⟨fun h => by rw [h], Date.number_injective hat.date hd⟩
  refine ⟨w, ⟨rfl, literal_timestamp hkind hne (timestamp_date hd) hw, hat⟩, ?_, ?_, ?_,
    fun hwhole => restored_start hkind hzone hwhole hd hyear⟩
  · rw [hday]
    rw [dayMicros_eq] at *
    omega
  · rw [dayMicros_eq] at *
    omega
  · rw [Moment.toStamp_eq_iff hd (by change 1000 ≤ d.year; omega) Moment.midnight_valid hat.date
      hshown hat.time, hat.ticks, Date.ticks_start]
    rw [dayMicros_eq, secondMicros_eq]
    omega

/-- On a clock that is five hours behind, the first of March is restored as an evening of
February. -/
theorem restored_date_march :
    let c : Column := ⟨"at", "DATETIME", .timestamp, false, true, false, none⟩
    let zone := some (-18000000000)
    let d : Date := ⟨2024, 3, 1⟩
    c.kind = .timestamp ∧ (zone.getD 0).natAbs < dayMicros ∧ d.isValid = true
      ∧ (1001 ≤ d.year ∧ d.year ≤ 9998)
      ∧ ∃ w : Moment, literal zone c (some d.toText) = .ok (inApostrophes w.toStamp)
        ∧ w.date ≠ d ∧ w.date.number + 1 = d.number := by
  intro c zone d
  have hzone : (zone.getD 0).natAbs < dayMicros := by decide
  have hd : d.isValid = true := by decide
  have hyear : 1001 ≤ d.year ∧ d.year ≤ 9998 := by decide
  obtain ⟨w, ⟨-, hliteral, -⟩, hsame, hbefore, -⟩ :=
    @restored_date zone c d rfl hzone hd hyear
  exact ⟨rfl, hzone, hd, hyear, w, hliteral, fun h => absurd (hsame.mp h) (by decide),
    hbefore.mpr (by decide)⟩

/-- The midnight of that day, on the same clock, is restored as itself. -/
theorem restored_date_differs :
    let c : Column := ⟨"at", "DATETIME", .timestamp, false, true, false, none⟩
    let zone := some (-18000000000)
    let d : Date := ⟨2024, 3, 1⟩
    (cellText zone c.kind (.date d)).toOption = some "2024-03-01"
      ∧ (literal zone c (some "2024-03-01")).toOption = some "'2024-02-29T19:00:00'"
      ∧ (cellText zone c.kind (.moment d.start)).toOption = some "2024-03-01T05:00:00Z"
      ∧ (literal zone c (some "2024-03-01T05:00:00Z")).toOption
        = some "'2024-03-01T00:00:00'" := by
  decide +kernel

end Tablekeep.Backup
