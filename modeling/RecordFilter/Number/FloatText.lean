import RecordFilter.Number.Decimal

/-!
# Text of floating point numbers

A floating point number is written with the fewest decimal digits that read
back as the same number, and of those the nearest to it; a number half way
between two is written with the greater. Two layouts use these digits: the
plain one never has an exponent, the marked one shows by a point or an
exponent that the number is not an integer constant.
-/

namespace RecordFilter.Number

/-- A double-precision number taken apart. The finite form is
`mantissa * 2 ^ exponent`; `lowestOfBinade` says that the next number below is
half as far away as the next one above. -/
inductive FloatParts
  | nan
  | infinite (negative : Bool)
  | finite (negative : Bool) (mantissa : Nat) (exponent : Int) (lowestOfBinade : Bool)

/-- Takes a number apart by its bits: sign, eleven bits of exponent and
fifty-two bits of fraction. -/
def FloatParts.ofFloat (x : Float) : FloatParts :=
  let bits : Nat := x.toBits.toNat
  let negative := bits / Nat.pow 2 63 == 1
  let scale : Nat := bits / Nat.pow 2 52 % Nat.pow 2 11
  let fraction : Nat := bits % Nat.pow 2 52
  if scale = 2047 then
    if fraction = 0 then .infinite negative else .nan
  else if scale = 0 then .finite negative fraction (-1074) false
  else .finite negative (Nat.pow 2 52 + fraction) ((scale : Int) - 1075) (fraction = 0 ∧ 1 < scale)

/-- The number `digits * 10 ^ exponent`. -/
structure DecimalForm where
  digits : Nat
  exponent : Int

/-- Takes zeros off the end of the digits. -/
def DecimalForm.strip (d : DecimalForm) : DecimalForm :=
  if d.digits ≠ 0 ∧ d.digits % 10 = 0 then strip ⟨d.digits / 10, d.exponent + 1⟩ else d
termination_by d.digits
decreasing_by omega

/-- The numbers that round to a given one: `low`, `middle` and `high` over the
common denominator `unit`, with the ends included or not. -/
structure RoundingInterval where
  low : Nat
  middle : Nat
  high : Nat
  unit : Nat
  closed : Bool

/-- The interval of `mantissa * 2 ^ exponent`: half way to the neighbours, in
quarters of a unit. The ends belong to an even mantissa. -/
def RoundingInterval.ofParts (mantissa : Nat) (exponent : Int) (lowestOfBinade : Bool) :
    RoundingInterval :=
  let scale := Nat.pow 2 (exponent - 2).toNat
  { low := (4 * mantissa - if lowestOfBinade then 1 else 2) * scale
    middle := 4 * mantissa * scale
    high := (4 * mantissa + 2) * scale
    unit := Nat.pow 2 (2 - exponent).toNat
    closed := mantissa % 2 = 0 }

/-- Whether `numerator / (unit * divisor)` lies in the interval. -/
def RoundingInterval.contains (i : RoundingInterval) (numerator divisor : Nat) : Bool :=
  if i.closed then i.low * divisor ≤ numerator && numerator ≤ i.high * divisor
  else i.low * divisor < numerator && numerator < i.high * divisor

/-- The multiple of `10 ^ exponent` in the interval that is nearest to its
middle, if one of the two neighbours of the middle lies in it. -/
def RoundingInterval.onGrid? (i : RoundingInterval) (exponent : Int) : Option DecimalForm :=
  let step := i.unit * Nat.pow 10 exponent.toNat
  let divisor := Nat.pow 10 (-exponent).toNat
  let floor := i.middle * divisor / step
  let below := i.contains (floor * step) divisor
  let above := i.contains ((floor + 1) * step) divisor
  let rest := i.middle * divisor - floor * step
  if below && above then
    some ⟨if 2 * rest < step then floor else floor + 1, exponent⟩
  else if below then some ⟨floor, exponent⟩
  else if above then some ⟨floor + 1, exponent⟩
  else none

/-- Tries ever finer decimal grids. Seventeen digits always suffice, so a fuel
of twenty-four does when the first grid is no more than a few digits too
coarse. -/
def RoundingInterval.search (i : RoundingInterval) : Nat → Int → DecimalForm
  | 0, exponent => ⟨0, exponent⟩
  | fuel + 1, exponent =>
    match i.onGrid? exponent with
    | some d => d
    | none => search i fuel (exponent - 1)

/-- The fewest digits that read back as `mantissa * 2 ^ exponent`, which is
not zero. The search begins at a power of ten just above the number. -/
def shortest (mantissa : Nat) (exponent : Int) (lowestOfBinade : Bool) : DecimalForm :=
  let magnitude := (Nat.log2 mantissa + 1 + exponent) * 30103 / 100000 + 1
  ((RoundingInterval.ofParts mantissa exponent lowestOfBinade).search 24 magnitude).strip

/-- Digits with the point in its place: zeros fill the gap between point and
digits. -/
def DecimalForm.positional (d : DecimalForm) : List Char :=
  let written := Number.digits d.digits
  if 0 ≤ d.exponent then written ++ List.replicate d.exponent.toNat '0'
  else
    let places := (-d.exponent).toNat
    if places < written.length then
      written.take (written.length - places) ++ '.' :: written.drop (written.length - places)
    else '0' :: '.' :: List.replicate (places - written.length) '0' ++ written

/-- Digits with the point after the first one, and the exponent. -/
def DecimalForm.scientific (d : DecimalForm) : List Char :=
  let written := Number.digits d.digits
  let mantissa :=
    match written with
    | first :: second :: more => first :: '.' :: second :: more
    | short => short
  mantissa ++ 'e' :: signedDigits (d.exponent + written.length - 1)

/-- The power of ten of the first digit. -/
def DecimalForm.leading (d : DecimalForm) : Int :=
  d.exponent + (Number.digits d.digits).length - 1

private def withSign (negative : Bool) (cs : List Char) : String :=
  String.ofList (if negative then '-' :: cs else cs)

/-- The plain text of a number: always positional, an integer without a
point. -/
def plainFloat (x : Float) : String :=
  match FloatParts.ofFloat x with
  | .nan => "NaN"
  | .infinite negative => withSign negative ['i', 'n', 'f']
  | .finite negative mantissa exponent lowest =>
    withSign negative <|
      if mantissa = 0 then ['0'] else (shortest mantissa exponent lowest).positional

/-- The marked text of a number: `.0` after an integer, and an exponent from
`1e16` up and below `1e-4`. -/
def markedFloat (x : Float) : String :=
  match FloatParts.ofFloat x with
  | .nan => "NaN"
  | .infinite negative => withSign negative ['i', 'n', 'f']
  | .finite negative mantissa exponent lowest =>
    withSign negative <|
      if mantissa = 0 then ['0', '.', '0']
      else
        let d := shortest mantissa exponent lowest
        if 16 ≤ d.leading ∨ d.leading < -4 then d.scientific
        else if 0 ≤ d.exponent then d.positional ++ ['.', '0']
        else d.positional

end RecordFilter.Number
