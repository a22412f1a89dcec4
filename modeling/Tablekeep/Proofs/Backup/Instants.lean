import Tablekeep.Proofs.Backup.Restored

/-!
# Moments keep their instant

A moment is written in universal time and restored on some clock, and neither of the two needs to be
the clock it was taken on. What stays the same is the instant, up to parts of a second: this file
follows it through the stamp that is written, the reading of the stamp, and the literal.

The stamp has to have a year of four digits, in universal time and on the clock of the restoration.
`InYears` says so of ticks, before there is any moment that has them.
-/

namespace Tablekeep.Calendar

/-- The ticks are those of a moment in the years from `first` to `last`. -/
structure InYears (first last : Nat) (ticks : Int) : Prop where
  ge : (daysBeforeYear first : Int) * dayMicros ≤ ticks
  lt : ticks < (daysBeforeYear (last + 1) : Int) * dayMicros

theorem inYears_def {first last : Nat} {ticks : Int} :
    InYears first last ticks ↔ (daysBeforeYear first : Int) * dayMicros ≤ ticks
      ∧ ticks < (daysBeforeYear (last + 1) : Int) * dayMicros :=
  ⟨fun h => ⟨h.ge, h.lt⟩, fun h => ⟨h.1, h.2⟩⟩

instance (first last : Nat) (ticks : Int) : Decidable (InYears first last ticks) :=
  decidable_of_iff _ inYears_def.symm

/-- The ticks without parts of a second. -/
def wholeSeconds (ticks : Int) : Int :=
  ticks - ticks % secondMicros

namespace Moment

variable {m : Moment} {zone : Option Int}

/-- The ticks of the moment in universal time. It is read on the clock `zone` if it does not say
otherwise, and on the clock of the system, which shows universal time, if there is none. -/
def instant (zone : Option Int) (m : Moment) : Int :=
  m.ticks - (m.offset.or zone).getD 0

/-- The moment is the one of the calendar that has the ticks. -/
structure At (m : Moment) (ticks : Int) : Prop where
  date : m.date.isValid = true
  time : m.time.Valid
  ticks : m.ticks = ticks

/-- The year of a moment tells where its ticks lie. -/
theorem inYears_iff {offset : Option Int} {ticks : Int} {first last : Nat} (hfirst : 1 ≤ first)
    (h : ofTicks offset ticks = .ok m) :
    InYears first last ticks ↔ first ≤ m.date.year ∧ m.date.year ≤ last := by
  obtain ⟨-, hdate, htime, hticks⟩ := ofTicks_spec h
  obtain ⟨hone, -, hmonth, -, hday, -⟩ := Date.isValid_iff.mp hdate
  obtain ⟨hmicros, -⟩ := TimeOfDay.ofMicros_micros htime
  have hafter : daysBeforeYear m.date.year < m.date.number := by
    rw [Date.number]
    omega
  -- a year that comes before another is over when that begins
  have hlow : first ≤ m.date.year ↔ daysBeforeYear first < m.date.number := by
    constructor
    · intro hle
      exact Nat.lt_of_le_of_lt (daysBeforeYear_mono hfirst hle) hafter
    · intro hlt
      by_contra hgt
      exact absurd (Date.number_le_of_year hdate (Nat.lt_of_not_le hgt)) (by omega)
  have hhigh : m.date.year ≤ last ↔ m.date.number ≤ daysBeforeYear (last + 1) := by
    constructor
    · intro hle
      exact Date.number_le_of_year hdate (Nat.lt_succ_of_le hle)
    · intro hle
      by_contra hgt
      have := daysBeforeYear_mono (Nat.le_add_left 1 last) (show last + 1 ≤ m.date.year by omega)
      omega
  rw [inYears_def, hlow, hhigh, ← hticks, Moment.ticks]
  rw [dayMicros_eq] at *
  omega

/-- Years of four digits are far from the ends of the calendar. -/
theorem bounds_of_inYears {ticks : Int} (h : InYears 1000 9999 ticks) :
    dayMicros + secondMicros ≤ ticks ∧ ticks < totalDays * dayMicros := by
  have hge := h.ge
  have hlt := h.lt
  have hfirst : daysBeforeYear 1000 = 364877 := by decide
  rw [hfirst, dayMicros_eq] at hge
  rw [dayMicros_eq, secondMicros_eq]
  exact ⟨by omega, hlt⟩

/-- A moment whose universal time is in such a year has a universal time. -/
theorem exists_toUniversal (h : InYears 1000 9999 (m.instant zone)) :
    ∃ u, m.toUniversal zone = .ok u ∧ u.ticks = m.instant zone ∧ 1000 ≤ u.date.year := by
  obtain ⟨hpos, hlt⟩ := bounds_of_inYears h
  obtain ⟨u, hu⟩ := exists_ofTicks (some 0) (m.instant zone) (by omega) hlt
  refine ⟨u, ?_, (ofTicks_spec hu).2.2.2, ((inYears_iff (by decide) hu).mp h).1⟩
  unfold toUniversal
  split
  · rename_i hoffset
    rw [instant, hoffset] at hu
    exact hu
  · rename_i hoffset
    rw [instant, hoffset] at hu
    exact hu
  · -- the system would not place the first day of the calendar, but this is a later one
    rename_i hoffset
    rw [instant, hoffset] at hu hpos
    simp only [Option.or_none, Option.getD_none, Int.sub_zero] at hu hpos
    rw [if_neg (by omega)]
    exact hu

/-- A clock that is off by whole seconds shows a moment of its own without parts of a second. -/
theorem wholeSeconds_instant (hoffset : m.offset = none) (ht : m.time.Valid)
    (hzone : (secondMicros : Int) ∣ zone.getD 0) :
    wholeSeconds (m.instant zone) + zone.getD 0 = m.toSecond.ticks := by
  obtain ⟨seconds, hseconds⟩ := hzone
  have hmod : (m.ticks - secondMicros * seconds) % secondMicros = m.ticks % secondMicros :=
    Int.sub_mul_emod_self_left ..
  rw [wholeSeconds, instant, hoffset, Option.none_or, hseconds, hmod, ticks_toSecond,
    Backup.micro_eq_mod ht]
  omega

end Moment

end Tablekeep.Calendar

namespace Tablekeep.Backup

open Calendar

/--
**A moment keeps its instant.**

Let a moment be in a year of four digits, in universal time and on the clock of the restoration.
Then it is written; what is written is read as the universal time of the moment, rounded down to the
second; and the literal is the quoted stamp of the moment that the clock of the restoration shows at
that instant. A moment without an offset that is restored on the clock it was taken on is restored
as itself without parts of a second, on any clock that is off by whole seconds.
-/
theorem restored_instant {zone zone' : Option Int} {c : Column} (hkind : c.kind = .timestamp)
    {m : Moment} (huniversal : InYears 1000 9999 (m.instant zone))
    (hshown : InYears 1000 9999 (m.instant zone + zone'.getD 0)) :
    ∃ (text : String) (u w : Moment), cellText zone .timestamp (.moment m) = .ok text
      ∧ (timestamp text = .ok u ∧ u.offset = some 0 ∧ u.At (wholeSeconds (m.instant zone)))
      ∧ (literal zone' c (some text) = .ok (inApostrophes w.toStamp)
        ∧ w.At (wholeSeconds (m.instant zone) + zone'.getD 0))
      ∧ (m.date.isValid = true → m.time.Valid → m.offset = none → zone' = zone →
        (secondMicros : Int) ∣ zone.getD 0 →
          w.date = m.date ∧ w.time = { m.time with micro := 0 }) := by
  obtain ⟨u, hu, hticks, hyear⟩ := Moment.exists_toUniversal huniversal
  obtain ⟨hoffset, hdate, htime, -⟩ := Moment.toUniversal_spec hu
  have hread := timestamp_stamp hoffset hdate hyear htime
  have hsecond : u.toSecond.ticks = wholeSeconds (m.instant zone) := by
    rw [Moment.ticks_toSecond, micro_eq_mod htime, hticks, wholeSeconds]
  -- less than a second is taken away, and neither clock is that close to the calendar's ends
  obtain ⟨hpos, hlt⟩ := Moment.bounds_of_inYears huniversal
  obtain ⟨hpos', hlt'⟩ := Moment.bounds_of_inYears hshown
  have hless : wholeSeconds (m.instant zone) ≤ m.instant zone
      ∧ m.instant zone < wholeSeconds (m.instant zone) + secondMicros := by
    rw [wholeSeconds, secondMicros_eq]
    omega
  obtain ⟨w, hw⟩ := Moment.exists_ofTicks (some (zone'.getD 0))
    (wholeSeconds (m.instant zone) + zone'.getD 0) (by omega) (by omega)
  have hzone : u.toSecond.toZone zone' = .ok w := by
    rw [Moment.toZone_of_universal (m := u.toSecond) hoffset (by omega) (by omega), hsecond]
    exact hw
  obtain ⟨-, hwdate, hwtime, hwticks⟩ := Moment.ofTicks_spec hw
  refine ⟨u.toStamp ++ "Z", u.toSecond, w, ?_,
    ⟨hread, hoffset, hdate, Moment.toSecond_valid htime, hsecond⟩,
    ⟨literal_stamp hkind hread hzone, hwdate, hwtime, hwticks⟩, ?_⟩
  · rw [cellText, hu]
    rfl
  · rintro hd ht hnaive rfl hwhole
    rw [Moment.wholeSeconds_instant hnaive ht hwhole] at hw
    have hsame := Moment.ofTicks_ticks (m := m.toSecond) hd (Moment.toSecond_valid ht)
      (some (zone'.getD 0))
    obtain rfl := Except.ok.inj (hw.symm.trans hsame)
    exact ⟨rfl, rfl⟩

/-- The last second of a leap day, on a clock that is behind by hours, minutes and seconds, is
restored on one that is ahead. -/
theorem restored_instant_leapDay :
    let c : Column := ⟨"at", "DATETIME", .timestamp, false, true, false, none⟩
    let m : Moment := ⟨⟨2024, 2, 29⟩, ⟨23, 59, 59, 999999⟩, some (-17762000000)⟩
    let zone' := some 20700000000
    c.kind = .timestamp ∧ InYears 1000 9999 (m.instant none)
      ∧ InYears 1000 9999 (m.instant none + zone'.getD 0)
      ∧ ∃ (text : String) (u w : Moment), cellText none .timestamp (.moment m) = .ok text
        ∧ (timestamp text = .ok u ∧ u.offset = some 0 ∧ u.At (wholeSeconds (m.instant none)))
        ∧ literal zone' c (some text) = .ok (inApostrophes w.toStamp)
        ∧ w.At (wholeSeconds (m.instant none) + zone'.getD 0) := by
  intro c m zone'
  have huniversal : InYears 1000 9999 (m.instant none) := by decide +kernel
  have hshown : InYears 1000 9999 (m.instant none + zone'.getD 0) := by decide +kernel
  obtain ⟨text, u, w, htext, hread, ⟨hliteral, hw⟩, -⟩ :=
    restored_instant (c := c) rfl huniversal hshown
  exact ⟨rfl, huniversal, hshown, text, u, w, htext, hread, hliteral, hw⟩

end Tablekeep.Backup
