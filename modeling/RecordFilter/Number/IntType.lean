import RecordFilter.Number.Decimal

/-!
# Integer types

The eight fixed-width integer types, and the reading of their literals. An
integer literal is a sign and decimal digits of any number. It is read from
the left, and the first character that is no digit, or that takes the number
out of the type's range, decides what is wrong with it.
-/

namespace RecordFilter.Number

/-- Widths of the integer types. -/
inductive IntWidth
  | w8 | w16 | w32 | w64
deriving DecidableEq, Repr

def IntWidth.bits : IntWidth → Nat
  | .w8 => 8
  | .w16 => 16
  | .w32 => 32
  | .w64 => 64

/-- A fixed-width integer type. -/
structure IntType where
  signed : Bool
  width : IntWidth
deriving DecidableEq, Repr

/-- Why a text is no literal of an integer type. -/
inductive IntFault
  | invalidDigit
  | tooLarge
  | tooSmall
deriving DecidableEq, Repr

def IntFault.message : IntFault → String
  | .invalidDigit => "invalid digit found in string"
  | .tooLarge => "number too large to fit in target type"
  | .tooSmall => "number too small to fit in target type"

namespace IntType

/-- The greatest number of the type. -/
def upper (t : IntType) : Nat :=
  if t.signed then Nat.pow 2 (t.width.bits - 1) - 1 else Nat.pow 2 t.width.bits - 1

/-- How far the type reaches below zero. -/
def depth (t : IntType) : Nat :=
  if t.signed then Nat.pow 2 (t.width.bits - 1) else 0

/-- The numbers of the type. -/
abbrev Carrier (t : IntType) : Type :=
  { n : Int // -(t.depth : Int) ≤ n ∧ n ≤ t.upper }

/-- Zero belongs to every type. -/
def zero (t : IntType) : t.Carrier :=
  ⟨0, by omega, by omega⟩

/-- The number as one of the type, if it is in range. -/
def ofInt? (t : IntType) (n : Int) : Option t.Carrier :=
  if h : -(t.depth : Int) ≤ n ∧ n ≤ t.upper then some ⟨n, h⟩ else none

/-- Name of the type: `i` or `u`, and the width in bits. -/
def name (t : IntType) : String :=
  String.ofList ((if t.signed then 'i' else 'u') :: digits t.width.bits)

/-- Reads digits after those that make up `read`. Numbers above the limit are
refused with `excess`, at the digit that exceeds it. -/
def magnitudeFrom (limit : Nat) (excess : IntFault) :
    Fin (limit + 1) → List Char → Except IntFault (Fin (limit + 1))
  | read, [] => .ok read
  | read, c :: rest =>
    if c.isDigit then
      if h : 10 * read.val + (c.toNat - '0'.toNat) < limit + 1 then
        magnitudeFrom limit excess ⟨_, h⟩ rest
      else .error excess
    else .error .invalidDigit

/-- Reads one or more digits. -/
def magnitude (limit : Nat) (excess : IntFault) (cs : List Char) :
    Except IntFault (Fin (limit + 1)) :=
  if cs.isEmpty then .error .invalidDigit else magnitudeFrom limit excess 0 cs

/-- Digits after no sign or a plus sign. -/
def readPositive (t : IntType) (cs : List Char) : Except IntFault t.Carrier :=
  (magnitude t.upper .tooLarge cs).map fun m =>
    ⟨m.val, by omega, by omega⟩

/-- Digits after a minus sign. -/
def readNegative (t : IntType) (cs : List Char) : Except IntFault t.Carrier :=
  (magnitude t.depth .tooSmall cs).map fun m =>
    ⟨-(m.val : Int), by omega, by omega⟩

/-- Reads a literal of the type. Only signed types know the minus sign; for
the others it is a bad digit. -/
def read (t : IntType) : List Char → Except IntFault t.Carrier
  | '+' :: rest => t.readPositive rest
  | '-' :: rest => if t.signed then t.readNegative rest else .error .invalidDigit
  | cs => t.readPositive cs

end IntType

end RecordFilter.Number
