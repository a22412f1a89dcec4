import Tablekeep.Calendar.Moment
import Tablekeep.Proofs.Calendar.Days

/-!
# Moments and their ticks

Clocks are changed by way of the ticks of a moment, the microseconds since the calendar
began. A moment that was made from ticks has a day of the calendar and a time of the day,
and its ticks are those it was made from. So a change of clock is an addition, as long as
the result stays in the calendar.

What is written of a moment leaves out parts of a second; `toSecond` does so without
writing anything.
-/

namespace Tablekeep.Calendar

/-! ## Times of the day -/

/-- The time is one of a day. -/
structure TimeOfDay.Valid (t : TimeOfDay) : Prop where
  hour : t.hour < 24
  minute : t.minute < 60
  second : t.second < 60
  micro : t.micro < secondMicros

theorem secondMicros_eq : secondMicros = 1000000 := rfl

theorem dayMicros_eq : dayMicros = 86400000000 := by decide

theorem totalDays_eq : totalDays = 3652059 := by decide

theorem TimeOfDay.ofMicros_valid {n : Nat} (h : n < dayMicros) : (ofMicros n).Valid := by
  rw [dayMicros_eq] at h
  constructor
  · simp only [ofMicros, secondMicros_eq]
    omega
  · exact Nat.mod_lt _ (by omega)
  · exact Nat.mod_lt _ (by omega)
  · exact Nat.mod_lt _ (by decide)

theorem TimeOfDay.micros_ofMicros (n : Nat) : (ofMicros n).micros = n := by
  simp only [ofMicros, micros, secondMicros_eq]
  omega

namespace Moment

variable {m : Moment} {offset : Option Int} {ticks : Int}

/-! ## Moments from ticks -/

/-- What a moment is that was made from ticks. -/
theorem ofTicks_spec (h : ofTicks offset ticks = .ok m) :
    m.offset = offset ∧ m.date.isValid = true ∧ m.time.Valid ∧ m.ticks = ticks := by
  unfold ofTicks at h
  split at h
  · cases h
  · rename_i hrange
    cases h
    rw [totalDays_eq, dayMicros_eq] at hrange
    have hdays : ticks.toNat / dayMicros + 1 ≤ totalDays := by
      rw [totalDays_eq, dayMicros_eq]
      omega
    obtain ⟨hvalid, hnumber⟩ := Date.ofNumber_spec (Nat.le_add_left 1 _) hdays
    refine ⟨rfl, hvalid, TimeOfDay.ofMicros_valid (Nat.mod_lt _ (by decide)), ?_⟩
    simp only [Moment.ticks, hnumber, TimeOfDay.micros_ofMicros, Nat.add_sub_cancel]
    rw [dayMicros_eq]
    omega

theorem exists_ofTicks (offset : Option Int) (ticks : Int) (hpos : 0 ≤ ticks)
    (hlt : ticks < totalDays * dayMicros) : ∃ m, ofTicks offset ticks = .ok m := by
  rw [ofTicks, if_neg (by omega)]
  exact ⟨_, rfl⟩

theorem range_of_ofTicks (h : ofTicks offset ticks = .ok m) :
    0 ≤ ticks ∧ ticks < totalDays * dayMicros := by
  unfold ofTicks at h
  split at h
  · cases h
  · omega

theorem TimeOfDay.ofMicros_micros {t : TimeOfDay} (h : t.Valid) :
    t.micros < dayMicros ∧ TimeOfDay.ofMicros t.micros = t := by
  obtain ⟨hhour, hminute, hsecond, hmicro⟩ := h
  obtain ⟨hour, minute, second, micro⟩ := t
  rw [secondMicros_eq] at hmicro
  simp only [TimeOfDay.ofMicros, TimeOfDay.micros, secondMicros_eq, dayMicros_eq,
    TimeOfDay.mk.injEq] at *
  omega

/-- A moment of the calendar is the one with its ticks. -/
theorem ofTicks_ticks (hd : m.date.isValid = true) (ht : m.time.Valid) (offset : Option Int) :
    ofTicks offset m.ticks = .ok ⟨m.date, m.time, offset⟩ := by
  obtain ⟨hone, hdate⟩ := Date.ofNumber_number hd
  obtain ⟨hlt, htime⟩ := TimeOfDay.ofMicros_micros ht
  have htotal : m.date.number ≤ totalDays :=
    Date.number_le_of_year hd (Nat.lt_succ_of_le (Date.isValid_iff.mp hd).2.1)
  have hticks : m.ticks.toNat = (m.date.number - 1) * dayMicros + m.time.micros := by
    simp only [Moment.ticks]
    omega
  have hpast : m.ticks.toNat / dayMicros + 1 = m.date.number
      ∧ m.ticks.toNat % dayMicros = m.time.micros := by
    rw [hticks, dayMicros_eq] at *
    omega
  have hrange : ¬ (m.ticks < 0 ∨ (totalDays : Int) * dayMicros ≤ m.ticks) := by
    simp only [Moment.ticks]
    rw [totalDays_eq, dayMicros_eq] at *
    omega
  rw [ofTicks, if_neg hrange]
  simp only [hpast.1, hpast.2, hdate, htime]

/-- A moment in universal time is one that was made from ticks. -/
theorem toUniversal_spec {zone : Option Int} {u : Moment} (h : m.toUniversal zone = .ok u) :
    u.offset = some 0 ∧ u.date.isValid = true ∧ u.time.Valid
      ∧ ofTicks (some 0) u.ticks = .ok u := by
  have hticks : ∃ n, ofTicks (some 0) n = .ok u := by
    unfold toUniversal at h
    split at h
    · exact ⟨_, h⟩
    · exact ⟨_, h⟩
    · split at h
      · cases h
      · exact ⟨_, h⟩
  obtain ⟨n, hn⟩ := hticks
  obtain ⟨hoffset, hdate, htime, rfl⟩ := ofTicks_spec hn
  exact ⟨hoffset, hdate, htime, hn⟩

/-- From universal time to a clock is an addition. -/
theorem toZone_of_universal {zone : Option Int} (hoffset : m.offset = some 0)
    (hpos : 0 ≤ m.ticks) (hlt : m.ticks < totalDays * dayMicros) :
    m.toZone zone = ofTicks (some (zone.getD 0)) (m.ticks + zone.getD 0) := by
  obtain ⟨u, hu⟩ := exists_ofTicks (some 0) m.ticks hpos hlt
  have huniversal : m.toUniversal zone = .ok u := by
    unfold toUniversal
    rw [hoffset]
    simp only [Int.sub_zero]
    exact hu
  have hticks := (ofTicks_spec hu).2.2.2
  simp only [toZone, huniversal, bind, Except.bind, hticks]

/-! ## Whole seconds -/

/-- The moment without parts of a second. -/
def toSecond (m : Moment) : Moment :=
  { m with time := { m.time with micro := 0 } }

theorem ticks_toSecond (m : Moment) : m.toSecond.ticks = m.ticks - m.time.micro := by
  simp only [toSecond, Moment.ticks, TimeOfDay.micros]
  omega

theorem toSecond_valid {m : Moment} (h : m.time.Valid) : m.toSecond.time.Valid :=
  ⟨h.hour, h.minute, h.second, show 0 < secondMicros by decide⟩

/-- No moment of a later year is so early that a clock could show one before the calendar. -/
theorem dayMicros_le_ticks (hyear : 1000 ≤ m.date.year) : 2 * (dayMicros : Int) ≤ m.ticks := by
  have hnumber : 3 ≤ m.date.number := by
    simp only [Date.number, daysBeforeYear]
    omega
  have hdays : 2 * dayMicros ≤ (m.date.number - 1) * dayMicros :=
    Nat.mul_le_mul_right _ (by omega)
  simp only [Moment.ticks]
  omega

/-- **A clock that shows a moment shows the whole second of it**, if it is off by less than a
day. -/
theorem exists_toZone_toSecond {u w : Moment} {zone : Option Int} (hoffset : u.offset = some 0)
    (htime : u.time.Valid) (hticks : ofTicks (some 0) u.ticks = .ok u)
    (hyear : 1000 ≤ u.date.year) (hzone : (zone.getD 0).natAbs < dayMicros)
    (h : u.toZone zone = .ok w) :
    ∃ v, u.toSecond.toZone zone = .ok v
      ∧ ofTicks (some (zone.getD 0)) (u.ticks - u.time.micro + zone.getD 0) = .ok v := by
  obtain ⟨hpos, hlt⟩ := range_of_ofTicks hticks
  rw [toZone_of_universal hoffset hpos hlt] at h
  obtain ⟨-, hshown⟩ := range_of_ofTicks h
  have hmicro := htime.micro
  have hearly := dayMicros_le_ticks hyear
  have hsecond := ticks_toSecond u
  rw [secondMicros_eq] at hmicro
  rw [dayMicros_eq] at hearly hzone hlt hshown
  rw [totalDays_eq] at hlt hshown
  have hoffset' : u.toSecond.offset = some 0 := hoffset
  -- up to a second less is still in the calendar, because the year is far from its beginning
  obtain ⟨v, hv⟩ := exists_ofTicks (some (zone.getD 0)) (u.toSecond.ticks + zone.getD 0)
    (by omega) (by rw [totalDays_eq, dayMicros_eq]; omega)
  refine ⟨v, ?_, ?_⟩
  · rw [toZone_of_universal hoffset' (by omega) (by rw [totalDays_eq, dayMicros_eq]; omega)]
    exact hv
  · rw [← hsecond]
    exact hv

end Moment

end Tablekeep.Calendar
