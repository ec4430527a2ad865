import RecordFilter.Calendar.Layout

/-!
# Instants

Date-times with their distance from universal time, in the fixed-width form
of RFC 3339. What counts is the instant, so the universal time is kept.
-/

namespace RecordFilter.Calendar

open RecordFilter.Number

/-- A local date-time and its offset. -/
structure Instant where
  localTime : DateTime
  offset : Offset
deriving DecidableEq

namespace Instant

/-- Takes exactly so many digits from the front. -/
def takeDigits (width : Nat) (cs : List Char) : Option (Nat × List Char) :=
  if (cs.take width).length = width ∧ (cs.take width).all Char.isDigit then
    some (ofDigits (cs.take width), cs.drop width)
  else none

/-- Takes two digits that write a number below the limit. -/
def takeBelow (limit : Nat) (cs : List Char) : Option (Fin limit × List Char) := do
  let (n, rest) ← takeDigits 2 cs
  if h : n < limit then some (⟨n, h⟩, rest) else none

/-- Takes one of some characters from the front. -/
def takeOneOf (allowed : List Char) : List Char → Option (List Char)
  | [] => none
  | c :: rest => if allowed.contains c then some rest else none

/-- Takes a date: year, month and day with hyphens. -/
def takeDate (cs : List Char) : Option (Date × List Char) := do
  let (year, cs) ← takeDigits 4 cs
  let cs ← takeOneOf ['-'] cs
  let (month, cs) ← takeDigits 2 cs
  let cs ← takeOneOf ['-'] cs
  let (day, cs) ← takeDigits 2 cs
  let d ← Date.ofParts? year month day
  return (d, cs)

/-- Takes a time of day: hour, minute, second and an optional fraction. -/
def takeTime (cs : List Char) : Option (TimeOfDay × List Char) := do
  let (hour, cs) ← takeBelow 24 cs
  let cs ← takeOneOf [':'] cs
  let (minute, cs) ← takeBelow 60 cs
  let cs ← takeOneOf [':'] cs
  let (second, cs) ← takeBelow 61 cs
  let (nano, cs) ← (readFraction cs).toOption
  return (.ofParts hour minute second nano, cs)

/-- Takes hours and minutes after the sign of an offset. -/
def takeOffset (behind : Bool) (cs : List Char) : Option (Offset × List Char) := do
  let (hours, cs) ← takeBelow 24 cs
  let cs ← takeOneOf [':'] cs
  let (minutes, cs) ← takeBelow 60 cs
  return (⟨behind, hours, minutes⟩, cs)

/-- Takes an offset. The minus sign may be the hyphen or U+2212. -/
def takeZone : List Char → Option (Offset × List Char)
  | [] => none
  | c :: rest =>
    if c = 'Z' ∨ c = 'z' then some (.universal, rest)
    else if c = '+' then takeOffset false rest
    else if c = '-' ∨ c = '\u2212' then takeOffset true rest
    else none

/-- Reads an instant: date, `T` or a space, time and offset, and no more. -/
def read? (cs : List Char) : Option Instant := do
  let (date, cs) ← takeDate cs
  let cs ← takeOneOf ['T', 't', ' '] cs
  let (time, cs) ← takeTime cs
  let (offset, cs) ← takeZone cs
  if cs.isEmpty then some ⟨⟨date, time⟩, offset⟩ else none

/-- The universal time of the instant. -/
def universal? (i : Instant) : Option DateTime :=
  i.localTime.toUniversal? i.offset

end Instant

end RecordFilter.Calendar
