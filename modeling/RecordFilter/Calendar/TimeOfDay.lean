import RecordFilter.Number.Decimal

/-!
# Times of day

Hours, minutes, seconds and nanoseconds. A minute may end with a leap second.
It is part of the second 59 and takes its nanoseconds from a thousand million
up, so that it comes after all of second 59 and before the next minute.
-/

namespace RecordFilter.Calendar

open RecordFilter.Number

-- the numbers on a clock start at zero; which zero is meant is said in full,
-- as there are more ways to it where algebra is imported
instance neZero_hours : @NeZero Nat Zero.ofOfNat0 24 := ⟨by decide⟩
instance neZero_minutes : @NeZero Nat Zero.ofOfNat0 60 := ⟨by decide⟩
instance neZero_seconds : @NeZero Nat Zero.ofOfNat0 61 := ⟨by decide⟩
instance neZero_nanos : @NeZero Nat Zero.ofOfNat0 1000000000 := ⟨by decide⟩

/-- A time of day; only second 59 can be the leap second. -/
structure TimeOfDay where
  hour : Fin 24
  minute : Fin 60
  second : Fin 60
  nano : Nat
  nano_inRange : nano < 1000000000 ∨ second.val = 59 ∧ nano < 2000000000
deriving DecidableEq

namespace TimeOfDay

/-- Times in the order of the clock. -/
instance : Ord TimeOfDay where
  compare := compareLex (compareOn (·.hour.val)) <| compareLex (compareOn (·.minute.val)) <|
    compareLex (compareOn (·.second.val)) (compareOn (·.nano))

/-- The time of these numbers; second 60 is the leap second. -/
def ofParts (hour : Fin 24) (minute : Fin 60) (second : Fin 61) (nano : Fin 1000000000) :
    TimeOfDay :=
  if h : second.val < 60 then ⟨hour, minute, ⟨second.val, h⟩, nano.val, .inl nano.isLt⟩
  else ⟨hour, minute, 59, nano.val + 1000000000, .inr ⟨rfl, by omega⟩⟩

def midnight : TimeOfDay :=
  ofParts 0 0 0 0

/-- The minute of the day, from 0 to 1439. -/
def minuteOfDay (t : TimeOfDay) : Nat :=
  t.hour.val * 60 + t.minute.val

/-- The same second of another minute of the day. -/
def atMinute (t : TimeOfDay) (minute : Fin 1440) : TimeOfDay :=
  { t with
    hour := ⟨minute.val / 60, by omega⟩
    minute := ⟨minute.val % 60, by omega⟩ }

/-- The second as it is written: 60 in the leap second. -/
def writtenSecond (t : TimeOfDay) : Nat :=
  t.second.val + t.nano / 1000000000

/-- The fraction of a second: nothing, or a point and three, six or nine
digits, the fewest that lose nothing. -/
def fractionText (nano : Nat) : List Char :=
  if nano = 0 then []
  else if nano % 1000000 = 0 then '.' :: padded 3 (nano / 1000000)
  else if nano % 1000 = 0 then '.' :: padded 6 (nano / 1000)
  else '.' :: padded 9 nano

/-- Characters of the text of a time. -/
def chars (t : TimeOfDay) : List Char :=
  padded 2 t.hour ++ ':' :: padded 2 t.minute ++ ':' :: padded 2 t.writtenSecond ++
    fractionText (t.nano % 1000000000)

end TimeOfDay

end RecordFilter.Calendar
