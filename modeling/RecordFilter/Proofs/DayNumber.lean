import Mathlib.Data.Prod.Lex
import RecordFilter.Calendar.DateTime
import RecordFilter.Proofs.ValueOrder

/-!
# The days of the calendar counted

Every day of the calendar has a number: it counts the days from the first of January
of the year 1 on, which has the number 1. The day after has the next number and the
day before the previous one, and dates are in the order of their numbers.
-/

namespace RecordFilter.Calendar

/-! ## Years and months -/

/-- The days before a year: of 365 each, and a day for every leap year. -/
def daysBeforeYear (year : Int) : Int :=
  365 * (year - 1) + (year - 1) / 4 - (year - 1) / 100 + (year - 1) / 400

/-- The days of so many months of a year, from January on. -/
def daysOfMonths (year : Int) : Nat → Nat
  | 0 => 0
  | months + 1 => daysOfMonths year months + daysInMonth year (months + 1)

theorem one_le_daysInMonth (year : Int) {month : Nat} (inRange : 1 ≤ month ∧ month ≤ 12) :
    1 ≤ daysInMonth year month := by
  unfold daysInMonth
  grind

theorem daysOfMonths_succ (year : Int) (months : Nat) :
    daysOfMonths year (months + 1) =
      daysOfMonths year months + daysInMonth year (months + 1) :=
  rfl

/-- By induction on the months between the two. -/
theorem daysOfMonths_mono (year : Int) {few many : Nat} (le : few ≤ many) :
    daysOfMonths year few ≤ daysOfMonths year many := by
  induction many, le using Nat.le_induction with
  | base => exact Nat.le_refl _
  | succ months _ ih =>
      rw [daysOfMonths_succ]
      omega

theorem daysBeforeYear_succ (year : Int) :
    daysBeforeYear (year + 1) = daysBeforeYear year + daysOfMonths year 12 := by
  have months : daysOfMonths year 12 = 365 + if isLeapYear year then 1 else 0 := by
    simp only [daysOfMonths, daysInMonth]
    split <;> rfl
  rw [months]
  unfold daysBeforeYear isLeapYear
  simp only [Bool.and_eq_true, Bool.or_eq_true, decide_eq_true_eq]
  split <;> omega

theorem daysBeforeYear_mono {year later : Int} (le : year ≤ later) :
    daysBeforeYear year ≤ daysBeforeYear later := by
  unfold daysBeforeYear
  omega

/-! ## Dates -/

namespace Date

variable {d d' : Date} {year : Int} {month day : Nat}

/-- The number of the day. -/
def dayNumber (d : Date) : Int :=
  daysBeforeYear d.year + daysOfMonths d.year (d.month - 1) + d.day

theorem ofParts?_eq_some (made : ofParts? year month day = some d) :
    d.year = year ∧ d.month = month ∧ d.day = day := by
  unfold ofParts? at made
  split at made
  · cases made
    exact ⟨rfl, rfl, rfl⟩
  · cases made

theorem dayNumber_of_parts (made : ofParts? year month day = some d) :
    d.dayNumber = daysBeforeYear year + daysOfMonths year (month - 1) + day := by
  obtain ⟨rfl, rfl, rfl⟩ := ofParts?_eq_some made
  rfl

theorem exists_ofParts? (inRange : minYear ≤ year ∧ year ≤ maxYear)
    (months : 1 ≤ month ∧ month ≤ 12) (days : 1 ≤ day ∧ day ≤ daysInMonth year month) :
    ∃ d, ofParts? year month day = some d :=
  ⟨_, dif_pos ⟨inRange, months, days⟩⟩

theorem daysOfMonths_month (d : Date) : daysOfMonths d.year d.month =
    daysOfMonths d.year (d.month - 1) + daysInMonth d.year d.month := by
  have whole := daysOfMonths_succ d.year (d.month - 1)
  rwa [Nat.sub_add_cancel d.month_inRange.1] at whole

/-- Every year ends with the same day. -/
theorem daysOfMonths_december (year : Int) :
    daysOfMonths year 12 = daysOfMonths year (12 - 1) + 31 :=
  rfl

/-- The day after has the next number. -/
theorem dayNumber_next? (next : d.next? = some d') : d'.dayNumber = d.dayNumber + 1 := by
  have month := d.month_inRange
  have day := d.day_inRange
  have whole := d.daysOfMonths_month
  unfold next? at next
  split at next
  · rw [dayNumber_of_parts next, dayNumber]
    omega
  · split at next
    · rw [dayNumber_of_parts next, dayNumber, Nat.add_sub_cancel]
      omega
    · -- the last of December is the last day of every year
      have december : d.month = 12 := by omega
      have last : daysInMonth d.year d.month = 31 := by rw [december]; rfl
      have first : daysOfMonths (d.year + 1) (1 - 1) = 0 := rfl
      rw [dayNumber_of_parts next, dayNumber, daysBeforeYear_succ, daysOfMonths_december, first,
        december]
      omega

/-- The day before has the previous number. -/
theorem dayNumber_prev? (prev : d.prev? = some d') : d'.dayNumber = d.dayNumber - 1 := by
  have month := d.month_inRange
  have day := d.day_inRange
  unfold prev? at prev
  split at prev
  · rw [dayNumber_of_parts prev, dayNumber]
    omega
  · split at prev
    · have before := daysOfMonths_succ d.year (d.month - 1 - 1)
      have one : d.month - 1 - 1 + 1 = d.month - 1 := by omega
      rw [one] at before
      rw [dayNumber_of_parts prev, dayNumber, before]
      omega
    · -- before the first of January there is December of the year before
      have january : daysOfMonths d.year (d.month - 1) = 0 := by
        rw [show d.month - 1 = 0 by omega]
        rfl
      have year := daysBeforeYear_succ (d.year - 1)
      rw [Int.sub_add_cancel, daysOfMonths_december] at year
      rw [dayNumber_of_parts prev, dayNumber, year, january]
      omega

example : epoch.dayNumber = 719163 := by
  decide

/-- Only in the last year there may be no day after. -/
theorem exists_next? (early : d.year < maxYear) : ∃ d', d.next? = some d' := by
  have inRange := d.year_inRange
  have month := d.month_inRange
  have day := d.day_inRange
  unfold next?
  split
  · exact exists_ofParts? inRange month (by omega)
  · split
    · have months : 1 ≤ d.month + 1 ∧ d.month + 1 ≤ 12 := by omega
      exact exists_ofParts? inRange months ⟨Nat.le_refl 1, one_le_daysInMonth d.year months⟩
    · exact exists_ofParts? (by omega) (by decide) ⟨Nat.le_refl 1, one_le_daysInMonth _ (by decide)⟩

/-- Only in the first year there may be no day before. -/
theorem exists_prev? (late : minYear < d.year) : ∃ d', d.prev? = some d' := by
  have inRange := d.year_inRange
  have month := d.month_inRange
  have day := d.day_inRange
  unfold prev?
  split
  · exact exists_ofParts? inRange month (by omega)
  · split
    · have months : 1 ≤ d.month - 1 ∧ d.month - 1 ≤ 12 := by omega
      exact exists_ofParts? inRange months ⟨one_le_daysInMonth d.year months, Nat.le_refl _⟩
    · exact exists_ofParts? (by omega) (by decide) ⟨by decide, Nat.le_refl 31⟩

/-! ## The order of dates -/

theorem compare_eq_lt_iff : compare d d' = .lt ↔
    d.year < d'.year ∨ d.year = d'.year ∧
      (d.month < d'.month ∨ d.month = d'.month ∧ d.day < d'.day) := by
  show (compare d.year d'.year).then ((compare d.month d'.month).then (compare d.day d'.day)) = .lt
    ↔ _
  simp only [Ordering.then_eq_lt, Std.compare_eq_iff_eq, compare_lt_iff_lt]

/-- An earlier date has a smaller number: what is left of its month and year lies
between the two. -/
theorem dayNumber_lt (before : compare d d' = .lt) : d.dayNumber < d'.dayNumber := by
  have month := d.month_inRange
  have day := d.day_inRange
  have day' := d'.day_inRange
  have whole := d.daysOfMonths_month
  unfold dayNumber
  rcases compare_eq_lt_iff.mp before with year | ⟨year, month' | ⟨month', earlier⟩⟩
  · -- no number in the year is beyond the first one of the next year
    have rest := daysOfMonths_mono d.year month.2
    have next := daysBeforeYear_succ d.year
    have later : daysBeforeYear (d.year + 1) ≤ daysBeforeYear d'.year := daysBeforeYear_mono year
    omega
  · have rest : daysOfMonths d.year d.month ≤ daysOfMonths d.year (d'.month - 1) :=
      daysOfMonths_mono d.year (by omega)
    rw [← year]
    omega
  · rw [← year, ← month']
    omega

end Date

end RecordFilter.Calendar
