import RecordFilter.Proofs.CalendarText
import RecordFilter.Proofs.UniversalTime

/-!
# Instants written and read

How an instant may be written: a date and a time of day of fixed width, with any number
of digits in the fraction of the second, and the offset of the local clock. What is
written so is read as the instant, and its universal time is the moment of the local
clock without the offset.
-/

namespace RecordFilter.Calendar

open Number Results

/-! ## Writing -/

/-- Characters of the hours and minutes of an offset. -/
def Offset.clockChars (o : Offset) : List Char :=
  padded 2 o.hours ++ ':' :: padded 2 o.minutes

/-- An offset: the letter of universal time, or a sign with hours and minutes. -/
inductive Offset.Writes : List Char → Offset → Prop
  | letter {c : Char} : c = 'Z' ∨ c = 'z' → Writes [c] .universal
  | ahead {o : Offset} : o.behind = false → Writes ('+' :: o.clockChars) o
  | behind {c : Char} {o : Offset} : c = '-' ∨ c = '\u2212' → o.behind = true →
      Writes (c :: o.clockChars) o

/-- The local date in a year of four digits, the local time with a fraction, and the
offset. -/
def Instant.Writes (cs : List Char) (i : Instant) : Prop :=
  (0 ≤ i.localTime.date.year ∧ i.localTime.date.year ≤ 9999) ∧
    ∃ separator ∈ ['T', 't', ' '], ∃ fraction zone,
      WritesFraction fraction (i.localTime.time.nano % 1000000000) ∧ i.offset.Writes zone ∧
        cs = i.localTime.date.chars ++
          separator :: (i.localTime.time.clockChars ++ (fraction ++ zone))

/-! ## Offsets -/

namespace Instant

variable {zone cs : List Char} {o : Offset} {i : Instant}

theorem takeOffset_clockChars (o : Offset) :
    takeOffset o.behind o.clockChars = some (o, []) := by
  have minutes : takeBelow 60 (padded 2 o.minutes ++ []) = some (o.minutes, []) :=
    takeBelow_padded o.minutes (by omega)
  rw [List.append_nil] at minutes
  unfold takeOffset Offset.clockChars
  simp only [Option.bind_eq_bind]
  rw [takeBelow_padded o.hours (by omega), Option.bind_some, takeOneOf_cons rfl, Option.bind_some,
    minutes]
  rfl

theorem takeZone_of_writes (written : o.Writes zone) : takeZone zone = some (o, []) := by
  cases written with
  | letter universal => exact if_pos universal
  | ahead ahead =>
      show takeOffset false o.clockChars = _
      rw [← ahead, takeOffset_clockChars]
  | behind sign behind =>
      have offset : takeOffset true o.clockChars = some (o, []) := by
        rw [← behind, takeOffset_clockChars]
      rcases sign with rfl | rfl <;> exact offset

/-- Nothing in an offset could belong to the fraction before it. -/
theorem exists_zone_eq_cons (written : o.Writes zone) :
    ∃ c more, zone = c :: more ∧ c.isDigit = false ∧ c ≠ '.' := by
  cases written with
  | letter universal => rcases universal with rfl | rfl <;> exact ⟨_, _, rfl, rfl, by decide⟩
  | ahead => exact ⟨_, _, rfl, rfl, by decide⟩
  | behind sign => rcases sign with rfl | rfl <;> exact ⟨_, _, rfl, rfl, by decide⟩

/-! ## Reading -/

/-- What is written for an instant is read as the instant. -/
theorem read?_of_writes (written : i.Writes cs) : read? cs = some i := by
  obtain ⟨⟨early, late⟩, separator, among, fraction, zone, nano, offset, rfl⟩ := written
  obtain ⟨c, more, first, other, noPoint⟩ := exists_zone_eq_cons offset
  have ends : DigitsEnd zone := by
    rw [first]
    exact digitsEnd_cons.mpr other
  have clock := takeTime_of_writes i.localTime.time nano ends (by
    intro more' point
    rw [first] at point
    exact noPoint (List.cons.inj point).1)
  unfold read?
  simp only [Option.bind_eq_bind]
  rw [takeDate_chars i.localTime.date early late, Option.bind_some,
    takeOneOf_cons (List.contains_iff_mem.mpr among), Option.bind_some, clock, Option.bind_some,
    takeZone_of_writes offset]
  rfl

theorem read_of_writes (written : i.Writes cs) :
    ∃ u, DateTime.read cs = .ok u ∧ u.moment = i.moment := by
  obtain ⟨u, universal⟩ := exists_universal? written.1.1 written.1.2
  refine ⟨u, ?_, moment_universal? universal⟩
  unfold DateTime.read
  rw [read?_of_writes written, Option.bind_some, universal]

end Instant

end RecordFilter.Calendar
