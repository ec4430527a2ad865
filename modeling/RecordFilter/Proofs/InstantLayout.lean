import RecordFilter.Proofs.LayoutApart
import RecordFilter.Proofs.UniversalTime

/-!
# Instants and layouts

An instant begins like a date-time with hyphens: its date and its time of day are read
by the layouts as well. But behind the time of day there is an offset, for which no
layout has a place.
-/

namespace RecordFilter.Calendar

open Number Results Text

namespace Instant

variable {cs rest : List Char} {c : Char} {n width : Nat} {i : Instant}

/-! ## Numbers of fixed width -/

theorem takeOneOf_eq_some_iff {allowed : List Char} :
    takeOneOf allowed cs = some rest ↔ ∃ c ∈ allowed, cs = c :: rest := by
  cases cs with
  | nil => simp [takeOneOf]
  | cons c cs => by_cases among : c ∈ allowed <;> simp [takeOneOf, among]

theorem takeDigits_eq_some (taken : takeDigits width cs = some (n, rest)) (some : 0 < width) :
    readNumber width cs = .ok (n, rest) ∧ n < 10 ^ width := by
  unfold takeDigits at taken
  split at taken
  · rename_i front
    obtain ⟨rfl, rfl⟩ := Prod.mk.inj (Option.some.inj taken)
    have digits : ∀ c ∈ cs.take width, c.isDigit = true := List.all_eq_true.mp front.2
    have nonempty : cs.take width ≠ [] := List.ne_nil_of_length_pos (by omega)
    have read : readNumber width (cs.take width ++ cs.drop width) =
        .ok (ofDigits (cs.take width), cs.drop width) :=
      readNumber_append nonempty digits (.inl front.1)
    rw [List.take_append_drop] at read
    have small := ofDigits_lt digits
    rw [front.1] at small
    exact ⟨read, small⟩
  · cases taken

theorem skipBlanks_of_readNumber {most : Nat} (read : readNumber most cs = .ok (n, rest)) :
    skipBlanks cs = cs := by
  obtain ⟨⟨c, more, rfl, digit⟩, -⟩ := readNumber_eq_ok read
  exact skipBlanks_cons (isBlankChar_of_isDigit digit) more

theorem rest?_year_of_takeDigits (taken : takeDigits 4 cs = some (n, rest)) :
    LayoutItem.year.rest? cs = some rest := by
  obtain ⟨read, -⟩ := takeDigits_eq_some taken (by decide)
  obtain ⟨⟨c, more, first, digit⟩, -⟩ := readNumber_eq_ok read
  have year : readYear (skipBlanks cs) = .ok ((n : Int), rest) := by
    rw [skipBlanks_of_readNumber read, first, readYear_of_isDigit digit, ← first, read]
    rfl
  exact LayoutItem.rest?_of_read (f := {}) (bind_eq_ok_iff.mpr ⟨_, year, rfl⟩)

theorem readUpTo_of_takeDigits {greatest : Nat} (taken : takeDigits 2 cs = some (n, rest))
    (inRange : 1 ≤ n ∧ n ≤ greatest) : readUpTo greatest (skipBlanks cs) = .ok (n, rest) := by
  obtain ⟨read, -⟩ := takeDigits_eq_some taken (by decide)
  unfold readUpTo
  rw [skipBlanks_of_readNumber read, read]
  exact if_pos inRange

theorem readBelow_of_takeBelow {limit : Nat} {k : Fin limit}
    (taken : takeBelow limit cs = some (k, rest)) :
    readBelow limit (skipBlanks cs) = .ok (k, rest) := by
  obtain ⟨⟨n, behind⟩, digits, checked⟩ := Option.bind_eq_some_iff.mp taken
  obtain ⟨read, -⟩ := takeDigits_eq_some digits (by decide)
  simp only at checked
  split at checked
  · rename_i below
    cases checked
    unfold readBelow
    rw [skipBlanks_of_readNumber read, read]
    exact dif_pos below
  · cases checked

/-! ## Dates and times of day -/

/-- A date of fixed width has a year of four digits, and is one with hyphens. -/
theorem takeDate_eq_some {d : Date} (taken : takeDate cs = some (d, rest)) :
    (0 ≤ d.year ∧ d.year ≤ 9999) ∧ Layout.isoDate.rest? cs = some rest := by
  simp only [takeDate, Option.bind_eq_bind, Option.bind_eq_some_iff, Prod.exists,
    takeOneOf_eq_some_iff, List.mem_singleton, exists_eq_left] at taken
  obtain ⟨year, _, takenYear, _, rfl, month, _, takenMonth, _, rfl, day, _, takenDay, d', parts,
    same⟩ := taken
  obtain ⟨rfl, rfl⟩ := Prod.mk.inj (Option.some.inj same)
  obtain ⟨sameYear, rfl, rfl⟩ := Date.ofParts?_eq_some parts
  have small := (takeDigits_eq_some takenYear (by decide)).2
  have month : LayoutItem.month.rest? _ = some _ :=
    LayoutItem.rest?_of_read (f := {}) (bind_eq_ok_iff.mpr
      ⟨_, readUpTo_of_takeDigits takenMonth d'.month_inRange, rfl⟩)
  have day : LayoutItem.day.rest? _ = some _ :=
    LayoutItem.rest?_of_read (f := {}) (bind_eq_ok_iff.mpr
      ⟨_, readUpTo_of_takeDigits takenDay ⟨d'.day_inRange.1, d'.day_le⟩, rfl⟩)
  refine ⟨by omega, ?_⟩
  rw [Layout.isoDate, Layout.rest?_cons_of (rest?_year_of_takeDigits takenYear),
    Layout.rest?_mark_cons, Layout.rest?_cons_of month, Layout.rest?_mark_cons,
    Layout.rest?_cons_of day]
  rfl

/-- A time of day of fixed width is one with seconds and a fraction. -/
theorem takeTime_eq_some {t : TimeOfDay} (taken : takeTime cs = some (t, rest)) :
    Layout.rest? (Layout.fullClock ++ [.fraction]) cs = some rest := by
  simp only [takeTime, Option.bind_eq_bind, Option.bind_eq_some_iff, Prod.exists,
    takeOneOf_eq_some_iff, List.mem_singleton, exists_eq_left] at taken
  obtain ⟨hour, _, takenHour, _, rfl, minute, _, takenMinute, _, rfl, second, _, takenSecond,
    nano, _, takenNano, same⟩ := taken
  obtain ⟨-, rfl⟩ := Prod.mk.inj (Option.some.inj same)
  have hour' : LayoutItem.hour.rest? _ = some _ :=
    LayoutItem.rest?_of_read (f := {}) (bind_eq_ok_iff.mpr
      ⟨_, readBelow_of_takeBelow takenHour, rfl⟩)
  have minute' : LayoutItem.minute.rest? _ = some _ :=
    LayoutItem.rest?_of_read (f := {}) (bind_eq_ok_iff.mpr
      ⟨_, readBelow_of_takeBelow takenMinute, rfl⟩)
  have second' : LayoutItem.second.rest? _ = some _ :=
    LayoutItem.rest?_of_read (f := {}) (bind_eq_ok_iff.mpr
      ⟨_, readBelow_of_takeBelow takenSecond, rfl⟩)
  have fraction : LayoutItem.fraction.rest? _ = some _ :=
    LayoutItem.rest?_of_read (f := {}) (bind_eq_ok_iff.mpr
      ⟨_, toOption_eq_some_iff.mp takenNano, rfl⟩)
  show Layout.rest? [.hour, .mark ':', .minute, .mark ':', .second, .fraction] cs = _
  rw [Layout.rest?_cons_of hour', Layout.rest?_mark_cons, Layout.rest?_cons_of minute',
    Layout.rest?_mark_cons, Layout.rest?_cons_of second', Layout.rest?_cons_of fraction]
  rfl

/-- What layouts leave of the text of an instant: behind the date there is a separator,
and behind the time of day something is left. -/
theorem exists_of_read? (read : read? cs = some i) :
    (0 ≤ i.localTime.date.year ∧ i.localTime.date.year ≤ 9999) ∧
      ∃ separator ∈ ['T', 't', ' '], ∃ clock c zone,
        Layout.isoDate.rest? cs = some (separator :: clock) ∧
          Layout.rest? (Layout.fullClock ++ [.fraction]) clock = some (c :: zone) := by
  simp only [read?, Option.bind_eq_bind, Option.bind_eq_some_iff, Prod.exists,
    takeOneOf_eq_some_iff] at read
  obtain ⟨d, _, takenDate, clock, ⟨separator, among, rfl⟩, t, behind, takenTime, o, _, takenZone,
    ended⟩ := read
  obtain ⟨year, date⟩ := takeDate_eq_some takenDate
  have time := takeTime_eq_some takenTime
  split at ended
  · cases ended
    refine ⟨year, separator, among, clock, ?_⟩
    cases behind with
    | nil => cases takenZone
    | cons c zone => exact ⟨c, zone, date, time⟩
  · cases ended

end Instant

end RecordFilter.Calendar
