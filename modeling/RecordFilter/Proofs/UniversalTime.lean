import RecordFilter.Calendar.Instant
import RecordFilter.Proofs.DayNumber

/-!
# Moments

A date-time stands for a moment of its clock: the seconds that have passed, and the
nanoseconds on top of them, which a leap second takes beyond a whole second. Moving a
local date-time to universal time takes the offset off its seconds, whatever has to be
carried, and date-times are in the order of their moments.
-/

namespace RecordFilter.Calendar

/-! ## Times of day -/

namespace TimeOfDay

variable {t t' : TimeOfDay}

/-- The seconds since midnight. The leap second shares the number of the second
before it. -/
def secondOfDay (t : TimeOfDay) : Nat :=
  t.minuteOfDay * 60 + t.second.val

theorem secondOfDay_lt (t : TimeOfDay) : t.secondOfDay < 86400 := by
  unfold secondOfDay minuteOfDay
  omega

theorem compare_eq_lt_iff : compare t t' = .lt ↔
    t.secondOfDay < t'.secondOfDay ∨ t.secondOfDay = t'.secondOfDay ∧ t.nano < t'.nano := by
  show (compare t.hour.val t'.hour.val).then ((compare t.minute.val t'.minute.val).then
    ((compare t.second.val t'.second.val).then (compare t.nano t'.nano))) = .lt ↔ _
  simp only [Ordering.then_eq_lt, Std.compare_eq_iff_eq, compare_lt_iff_lt]
  unfold secondOfDay minuteOfDay
  omega

theorem secondOfDay_atMinute (t : TimeOfDay) (minute : Fin 1440) :
    (t.atMinute minute).secondOfDay = minute.val * 60 + t.second.val := by
  show (minute.val / 60 * 60 + minute.val % 60) * 60 + t.second.val = _
  rw [Nat.div_add_mod']

end TimeOfDay

/-! ## Date-times -/

namespace DateTime

variable {t t' u : DateTime} {o : Offset}

/-- The seconds that have passed since the day of number zero began. -/
def seconds (t : DateTime) : Int :=
  t.date.dayNumber * 86400 + t.time.secondOfDay

/-- The moment of a date-time, in the order of time. -/
def moment (t : DateTime) : Int ×ₗ Nat :=
  toLex (t.seconds, t.time.nano)

theorem compare_eq_lt_iff :
    compare t t' = .lt ↔ compare t.date t'.date = .lt ∨ t.date = t'.date ∧
      compare t.time t'.time = .lt := by
  show (compare t.date t'.date).then (compare t.time t'.time) = .lt ↔ _
  rw [Ordering.then_eq_lt, Std.compare_eq_iff_eq]

theorem moment_lt (before : compare t t' = .lt) : t.moment < t'.moment := by
  have second := t.time.secondOfDay_lt
  rw [moment, moment, Prod.Lex.toLex_lt_toLex]
  unfold seconds
  rcases compare_eq_lt_iff.mp before with date | ⟨date, time⟩
  · have day := Date.dayNumber_lt date
    omega
  · have earlier := TimeOfDay.compare_eq_lt_iff.mp time
    rw [date]
    omega

/-- Date-times are in the order of their moments. -/
theorem compare_eq (t t' : DateTime) : compare t t' = compare t.moment t'.moment := by
  cases order : compare t t' with
  | lt => exact (compare_lt_iff_lt.mpr (moment_lt order)).symm
  | eq =>
      rw [Std.compare_eq_iff_eq.mp order]
      exact (compare_eq_iff_eq.mpr rfl).symm
  | gt =>
      have after : compare t' t = .lt := Std.OrientedCmp.lt_of_gt order
      exact (compare_gt_iff_gt.mpr (moment_lt after)).symm

theorem moment_inj : t.moment = t'.moment ↔ t = t' := by
  rw [← Std.compare_eq_iff_eq (a := t), compare_eq, compare_eq_iff_eq]

/-! ## Universal time -/

theorem moment_atMinute (d : Date) (t : TimeOfDay) {minute : Int} (some : 0 ≤ minute)
    (inDay : minute.toNat < 1440) : moment ⟨d, t.atMinute ⟨minute.toNat, inDay⟩⟩ =
      toLex (d.dayNumber * 86400 + minute * 60 + t.second.val, t.nano) := by
  have second := t.secondOfDay_atMinute ⟨minute.toNat, inDay⟩
  have seconds : seconds ⟨d, t.atMinute ⟨minute.toNat, inDay⟩⟩ =
      d.dayNumber * 86400 + minute * 60 + t.second.val := by
    show d.dayNumber * 86400 + ((t.atMinute ⟨minute.toNat, inDay⟩).secondOfDay : Int) = _
    rw [second]
    show d.dayNumber * 86400 + ((minute.toNat * 60 + t.second.val : Nat) : Int) = _
    omega
  unfold moment
  rw [seconds]
  rfl

/-- The seconds of universal time are those of the clock without the offset; the
nanoseconds are the same. -/
theorem moment_toUniversal? (moved : t.toUniversal? o = some u) :
    u.moment = toLex (t.seconds - 60 * o.total, t.time.nano) := by
  have bounds := o.total_bounds
  unfold toUniversal? at moved
  simp only at moved
  split at moved
  · -- the minute is that of the day before
    obtain ⟨d, prev, rfl⟩ := Option.map_eq_some_iff.mp moved
    rw [moment_atMinute _ _ (by omega), Date.dayNumber_prev? prev, seconds, TimeOfDay.secondOfDay]
    congr 2
    omega
  · split at moved
    · -- the minute is that of the day after
      obtain ⟨d, next, rfl⟩ := Option.map_eq_some_iff.mp moved
      rw [moment_atMinute _ _ (by omega), Date.dayNumber_next? next, seconds, TimeOfDay.secondOfDay]
      congr 2
      omega
    · cases moved
      rw [moment_atMinute _ _ (by omega), seconds, TimeOfDay.secondOfDay]
      congr 2
      omega

/-- Only at the two ends of the calendar a local date-time may have no universal
time. -/
theorem exists_toUniversal? (o : Offset) (late : minYear < t.date.year)
    (early : t.date.year < maxYear) : ∃ u, t.toUniversal? o = some u := by
  obtain ⟨before, prev⟩ := Date.exists_prev? late
  obtain ⟨after, next⟩ := Date.exists_next? early
  unfold toUniversal?
  simp only [prev, next, Option.map_some]
  split
  · exact ⟨_, rfl⟩
  · split <;> exact ⟨_, rfl⟩

end DateTime

/-! ## Instants -/

namespace Instant

variable {i : Instant}

/-- The moment of an instant: that of the local clock without the offset. -/
def moment (i : Instant) : Int ×ₗ Nat :=
  toLex (i.localTime.seconds - 60 * i.offset.total, i.localTime.time.nano)

theorem moment_universal? {u : DateTime} (universal : i.universal? = some u) :
    u.moment = i.moment :=
  DateTime.moment_toUniversal? universal

/-- A year of four digits is far from both ends of the calendar. -/
theorem exists_universal? (early : 0 ≤ i.localTime.date.year)
    (late : i.localTime.date.year ≤ 9999) : ∃ u, i.universal? = some u := by
  refine DateTime.exists_toUniversal? i.offset ?_ ?_
  · unfold minYear
    omega
  · unfold maxYear
    omega

end Instant

end RecordFilter.Calendar
