import RecordFilter.Calendar.DateTime
import RecordFilter.Calendar.Fraction
import RecordFilter.Text.Blank

/-!
# Layouts of dates and date-times

A layout says in which order the numbers of a date-time stand and what stands
between them. A text is read against a layout item by item from the left; each
number is checked against its own range at once, and whether the day exists is
checked at the end. Numbers need no leading zeros, and blanks before a number
are passed over.
-/

namespace RecordFilter.Calendar

open RecordFilter.Number RecordFilter.Text

/-- Why a text does not fit a layout. -/
inductive LayoutFault
  | outOfRange
  | invalid
  | premature
  | trailing
deriving DecidableEq, Repr

def LayoutFault.message : LayoutFault → String
  | .outOfRange => "input is out of range"
  | .invalid => "input contains invalid characters"
  | .premature => "premature end of input"
  | .trailing => "trailing input"

/-- One element of a layout. A `mark` stands for itself, a `gap` for any number
of blanks, and a `fraction` for nothing or a point and digits. -/
inductive LayoutItem
  | year | month | day | hour | minute | second | fraction
  | mark (c : Char)
  | gap
deriving DecidableEq, Repr

/-- A layout is read from left to right. -/
abbrev Layout := List LayoutItem

/-- The numbers found so far. Those that a layout does not have stay at their
least value. -/
structure Fields where
  year : Int := 0
  month : Nat := 1
  day : Nat := 1
  hour : Fin 24 := 0
  minute : Fin 60 := 0
  second : Fin 61 := 0
  nano : Fin 1000000000 := 0

namespace Fields

/-- The date of the numbers, if it exists. -/
def date? (f : Fields) : Option Date :=
  Date.ofParts? f.year f.month f.day

/-- The time of day of the numbers. -/
def time (f : Fields) : TimeOfDay :=
  .ofParts f.hour f.minute f.second f.nano

/-- The date-time of the numbers, if its date exists. -/
def dateTime? (f : Fields) : Option DateTime :=
  f.date?.map fun d => ⟨d, f.time⟩

end Fields

/-- Reads a number of one digit or more, and of no more than `most`. -/
def readNumber (most : Nat) : List Char → Except LayoutFault (Nat × List Char)
  | [] => .error .premature
  | c :: rest =>
    if c.isDigit then
      let found := ((c :: rest).takeWhile Char.isDigit).take most
      .ok (ofDigits found, (c :: rest).drop found.length)
    else .error .invalid

/-- The years that the reader of numbers holds; the calendar has fewer. -/
def readableYear (year : Int) : Except LayoutFault Int :=
  if -2147483648 ≤ year ∧ year ≤ 2147483647 then .ok year else .error .outOfRange

/-- Reads a year: up to four digits, or any number of digits after a sign. -/
def readYear : List Char → Except LayoutFault (Int × List Char)
  | '-' :: rest => do
    let (n, rest) ← readNumber rest.length rest
    return (← readableYear (-n), rest)
  | '+' :: rest => do
    let (n, rest) ← readNumber rest.length rest
    return (← readableYear n, rest)
  | cs => do
    let (n, rest) ← readNumber 4 cs
    return (n, rest)

/-- Reads a number of one or two digits below the limit. -/
def readBelow (limit : Nat) (cs : List Char) : Except LayoutFault (Fin limit × List Char) := do
  let (n, rest) ← readNumber 2 cs
  if h : n < limit then return (⟨n, h⟩, rest) else throw .outOfRange

/-- Reads a number of one or two digits from 1 to the greatest. -/
def readUpTo (greatest : Nat) (cs : List Char) : Except LayoutFault (Nat × List Char) := do
  let (n, rest) ← readNumber 2 cs
  if 1 ≤ n ∧ n ≤ greatest then return (n, rest) else throw .outOfRange

/-- Reads a fraction of a second; there is none unless a point comes next. -/
def readFraction : List Char → Except LayoutFault (Fin 1000000000 × List Char)
  | '.' :: rest =>
    match rest with
    | [] => .error .premature
    | c :: _ => if c.isDigit then .ok (spanNanos rest) else .error .invalid
  | cs => .ok (0, cs)

/-- Drops the blanks at the front. -/
def skipBlanks (cs : List Char) : List Char :=
  cs.dropWhile isBlankChar

/-- Reads one item and adds its number to the fields. -/
def LayoutItem.read (f : Fields) (cs : List Char) :
    LayoutItem → Except LayoutFault (Fields × List Char)
  | .year => do
    let (n, rest) ← readYear (skipBlanks cs)
    return ({ f with year := n }, rest)
  | .month => do
    let (n, rest) ← readUpTo 12 (skipBlanks cs)
    return ({ f with month := n }, rest)
  | .day => do
    let (n, rest) ← readUpTo 31 (skipBlanks cs)
    return ({ f with day := n }, rest)
  | .hour => do
    let (n, rest) ← readBelow 24 (skipBlanks cs)
    return ({ f with hour := n }, rest)
  | .minute => do
    let (n, rest) ← readBelow 60 (skipBlanks cs)
    return ({ f with minute := n }, rest)
  | .second => do
    let (n, rest) ← readBelow 61 (skipBlanks cs)
    return ({ f with second := n }, rest)
  | .fraction => do
    let (n, rest) ← readFraction cs
    return ({ f with nano := n }, rest)
  | .mark expected =>
    match cs with
    | [] => .error .premature
    | c :: rest => if c = expected then .ok (f, rest) else .error .invalid
  | .gap => .ok (f, skipBlanks cs)

namespace Layout

/-- Reads the items in turn, up to the end of the text. -/
def scan : Layout → Fields → List Char → Except LayoutFault Fields
  | [], f, cs => if cs.isEmpty then .ok f else .error .trailing
  | item :: items, f, cs => do
    let (f, rest) ← item.read f cs
    scan items f rest

/-- The date that a text has in the layout. -/
def readDate (l : Layout) (cs : List Char) : Except LayoutFault Date := do
  let f ← l.scan {} cs
  match f.date? with
  | some d => return d
  | none => throw .outOfRange

/-- The date-time that a text has in the layout. -/
def readDateTime (l : Layout) (cs : List Char) : Except LayoutFault DateTime := do
  let f ← l.scan {} cs
  match f.dateTime? with
  | some t => return t
  | none => throw .outOfRange

/-- Year, month and day with hyphens. -/
def isoDate : Layout :=
  [.year, .mark '-', .month, .mark '-', .day]

/-- Month, day and year with slashes. -/
def slashDate : Layout :=
  [.month, .mark '/', .day, .mark '/', .year]

/-- Hour and minute. -/
def clock : Layout :=
  [.hour, .mark ':', .minute]

/-- Hour, minute and second. -/
def fullClock : Layout :=
  [.hour, .mark ':', .minute, .mark ':', .second]

/-- The layouts of a date-time but for the last, in the order of trial. -/
def dateTimes : List Layout :=
  [ isoDate ++ [.mark 'T'] ++ fullClock ++ [.fraction],
    isoDate ++ [.gap] ++ fullClock ++ [.fraction],
    isoDate ++ [.mark 'T'] ++ clock,
    isoDate ++ [.gap] ++ clock,
    slashDate ++ [.gap] ++ fullClock ]

/-- The layout of a date-time that is tried last. -/
def lastDateTime : Layout :=
  slashDate ++ [.gap] ++ clock

/-- The first success of a reader over the layouts; if there is none, what the
last one says. -/
def firstSuccess {α : Type} (read : Layout → Except LayoutFault α) (last : Layout) :
    List Layout → Except LayoutFault α
  | [] => read last
  | l :: rest =>
    match read l with
    | .ok a => .ok a
    | .error _ => firstSuccess read last rest

end Layout

end RecordFilter.Calendar
