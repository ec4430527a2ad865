import RecordFilter.Calendar.Date
import RecordFilter.Calendar.TimeOfDay

/-!
# Date-times

A date with a time of day, without a place, and its move to another offset
from universal time.
-/

namespace RecordFilter.Calendar

/-- A time of day on a date. -/
structure DateTime where
  date : Date
  time : TimeOfDay
deriving DecidableEq

namespace DateTime

/-- Date-times in the order of time. -/
instance : Ord DateTime where
  compare := compareLex (compareOn DateTime.date) (compareOn DateTime.time)

/-- The beginning of a date. -/
def startOf (d : Date) : DateTime :=
  ⟨d, .midnight⟩

/-- Characters of the text of a date-time. -/
def chars (t : DateTime) : List Char :=
  t.date.chars ++ 'T' :: t.time.chars

/-- Date and time with a `T` between them. -/
def text (t : DateTime) : String :=
  String.ofList t.chars

end DateTime

/-- The distance of a local time from universal time, less than a day. It is
positive where the local clock is ahead. -/
structure Offset where
  behind : Bool
  hours : Fin 24
  minutes : Fin 60
deriving DecidableEq

namespace Offset

/-- No distance at all. -/
def universal : Offset :=
  ⟨false, 0, 0⟩

/-- The whole distance in minutes. -/
def total (o : Offset) : Int :=
  if o.behind then -(o.hours.val * 60 + o.minutes.val : Int)
  else o.hours.val * 60 + o.minutes.val

theorem total_bounds (o : Offset) : -1440 < o.total ∧ o.total < 1440 := by
  unfold total
  split <;> omega

end Offset

/-- The universal time of a local time: whole minutes are taken off, with at
most one day of carry, and the seconds stay as they are. There is none if the
day falls out of the calendar. -/
def DateTime.toUniversal? (t : DateTime) (o : Offset) : Option DateTime :=
  let minute := (t.time.minuteOfDay : Int) - o.total
  have bounds := o.total_bounds
  have small : t.time.minuteOfDay < 1440 := by unfold TimeOfDay.minuteOfDay; omega
  if low : minute < 0 then
    t.date.prev?.map fun d => ⟨d, t.time.atMinute ⟨(minute + 1440).toNat, by omega⟩⟩
  else if high : 1440 ≤ minute then
    t.date.next?.map fun d => ⟨d, t.time.atMinute ⟨(minute - 1440).toNat, by omega⟩⟩
  else some ⟨t.date, t.time.atMinute ⟨minute.toNat, by omega⟩⟩

end RecordFilter.Calendar
