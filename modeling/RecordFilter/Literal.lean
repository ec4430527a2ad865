import RecordFilter.Calendar.Reading
import RecordFilter.Error
import RecordFilter.Value

/-!
# Literals

The reading of literals as values of a declared type. Blanks around a literal
do not count, except in a text, which is taken as it is. No type has a blank
literal.
-/

namespace RecordFilter.Literal

open RecordFilter.Number RecordFilter.Calendar RecordFilter.Text

/-- Reads a truth value, in any case. -/
def readBool (s : String) : Option Bool :=
  if lower s = "true" then some true
  else if lower s = "false" then some false
  else none

/-- The position of the first variant that is the text in another case. -/
def findVariant? (variants : List String) (s : String) : Option Nat :=
  variants.findIdx? (lower · == lower s)

/-- Reads a literal as a member of the type's carrier. -/
def read (t : ValueType) (literal : String) : Except LiteralFault t.Carrier :=
  let trimmed := trim literal
  if trimmed = "" then .error .empty
  else
    match t with
    | .int t => (t.read trimmed.toList).mapError .int
    | .float .single =>
      match FloatLiteral.read trimmed.toList with
      | some x => .ok x.toFloat32
      | none => .error .float
    | .float .double =>
      match FloatLiteral.read trimmed.toList with
      | some x => .ok x.toFloat
      | none => .error .float
    | .bool =>
      match readBool trimmed with
      | some b => .ok b
      | none => .error .bool
    | .text => .ok literal
    | .dateTime => (DateTime.read trimmed.toList).mapError .dateTime
    | .date => (Date.read trimmed.toList).mapError .dateTime
    | .uuid => (Uuid.read trimmed.toList).mapError .uuid
    | .enum name variants =>
      match findVariant? variants trimmed with
      | some index => .ok index
      | none => .error (.unknownVariant name variants)
    | .object entity => .error (.unsupported (.object entity))

/-- The value that a literal stands for as a constant of the type. -/
def constant (t : ValueType) (literal : String) : Except FilterError Value :=
  match read t literal with
  | .ok x => .ok (t.value x)
  | .error fault => .error (.invalidValue literal t fault)

end RecordFilter.Literal
