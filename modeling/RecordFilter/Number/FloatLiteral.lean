import RecordFilter.Number.Decimal

/-!
# Floating point literals

A literal is `inf`, `infinity` or `nan` in any case, or decimal digits with an
optional point and an optional decimal exponent, each after an optional sign.
Its value is the floating point number nearest to the number written, a tie
going to the even neighbour; beyond the largest one it is infinite.
-/

namespace RecordFilter.Number

/-- What a floating point literal writes. The finite form stands for
`mantissa * 10 ^ exponent`. -/
inductive FloatLiteral
  | nan
  | infinite (negative : Bool)
  | finite (negative : Bool) (mantissa : Nat) (exponent : Int)
deriving DecidableEq, Repr

namespace FloatLiteral

/-- Takes a sign from the front of a text. -/
def sign : List Char → Bool × List Char
  | '-' :: rest => (true, rest)
  | '+' :: rest => (false, rest)
  | cs => (false, cs)

/-- The exponent part: nothing, or `e` and a signed number up to the end. -/
def readExponent : List Char → Option Int
  | [] => some 0
  | c :: rest =>
    if c = 'e' ∨ c = 'E' then
      let (negative, cs) := sign rest
      if cs.isEmpty || !cs.all Char.isDigit then none
      else some (if negative then -(ofDigits cs : Int) else ofDigits cs)
    else none

/-- The digits after the point, if there is one, and the rest. -/
def spanFraction : List Char → List Char × List Char
  | '.' :: rest => spanDigits rest
  | cs => ([], cs)

/-- Digits with a point among them, before them or after them, and an
exponent. -/
def readFinite (negative : Bool) (cs : List Char) : Option FloatLiteral :=
  let (whole, rest) := spanDigits cs
  let (fraction, rest) := spanFraction rest
  if whole.isEmpty && fraction.isEmpty then none
  else (readExponent rest).map fun exponent =>
    .finite negative (ofDigits (whole ++ fraction)) (exponent - fraction.length)

/-- Reads a literal. -/
def read (cs : List Char) : Option FloatLiteral :=
  let (negative, rest) := sign cs
  let word := rest.map Char.toLower
  if word = ['n', 'a', 'n'] then some .nan
  else if word = ['i', 'n', 'f'] ∨ word = ['i', 'n', 'f', 'i', 'n', 'i', 't', 'y'] then
    some (.infinite negative)
  else readFinite negative rest

/-- The decimal exponent above which every number is infinite in double
precision. -/
def highestExponent : Int := 310

/-- The decimal exponent below which every number is zero in double
precision. -/
def lowestExponent : Int := -330

/-- Where the first digit of a finite literal stands: the number is below ten
to this power, and not below a tenth of it. -/
def leadingExponent (mantissa : Nat) (exponent : Int) : Int :=
  (digits mantissa).length + exponent

/-- The nearest number of double precision. Exponents out of all bounds are
settled first, so that no power of ten is larger than it needs to be. -/
def toFloat : FloatLiteral → Float
  | .nan => 0.0 / 0.0
  | .infinite negative => if negative then -1.0 / 0.0 else 1.0 / 0.0
  | .finite negative mantissa exponent =>
    let size :=
      if mantissa = 0 ∨ leadingExponent mantissa exponent < lowestExponent then 0.0
      else if leadingExponent mantissa exponent > highestExponent then 1.0 / 0.0
      else Float.ofScientific mantissa (exponent < 0) exponent.natAbs
    if negative then -size else size

/-- The nearest number of single precision, in one rounding. -/
def toFloat32 : FloatLiteral → Float32
  | .nan => 0.0 / 0.0
  | .infinite negative => if negative then -1.0 / 0.0 else 1.0 / 0.0
  | .finite negative mantissa exponent =>
    let size :=
      if mantissa = 0 ∨ leadingExponent mantissa exponent < lowestExponent then 0.0
      else if leadingExponent mantissa exponent > highestExponent then 1.0 / 0.0
      else Float32.ofScientific mantissa (exponent < 0) exponent.natAbs
    if negative then -size else size

/-- The text for a literal that cannot be read. -/
def fault : String :=
  "invalid float literal"

end FloatLiteral

end RecordFilter.Number
