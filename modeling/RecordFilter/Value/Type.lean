import RecordFilter.Calendar.DateTime
import RecordFilter.Number.IntType
import RecordFilter.Uuid

/-!
# Value types

The types that a field of a record can be declared with. Each type names a
type of Lean, its carrier, from which the values of such a field come.
-/

namespace RecordFilter

open RecordFilter.Number RecordFilter.Calendar

/-- Precision of a floating point type. -/
inductive FloatPrecision
  | single | double
deriving DecidableEq, Repr

/-- Declared type of a field. The variants of an enumeration are known by name
and position; an object is known by the name of its entity only. -/
inductive ValueType
  | int (type : IntType)
  | float (precision : FloatPrecision)
  | bool
  | text
  | dateTime
  | date
  | uuid
  | enum (name : String) (variants : List String)
  | object (entity : String)
deriving DecidableEq, Repr

namespace ValueType

/-- Where the values of a type come from. A value of an enumeration is a
position in its list of variants, which may be out of range; an object is no
more than present. -/
def Carrier : ValueType → Type
  | .int t => t.Carrier
  | .float .single => Float32
  | .float .double => Float
  | .bool => Bool
  | .text => String
  | .dateTime => DateTime
  | .date => Date
  | .uuid => Uuid
  | .enum _ _ => Nat
  | .object _ => Unit

/-- Whether values of the type are compared by `<` and the like. -/
def isOrdered : ValueType → Bool
  | .int _ | .float _ | .dateTime | .date | .enum _ _ => true
  | .bool | .text | .uuid | .object _ => false

/-- Whether values of the type are searched for text. -/
def isText : ValueType → Bool
  | .text => true
  | _ => false

/-- The name of the type in messages. -/
def render : ValueType → String
  | .int t => t.name
  | .float .single => "f32"
  | .float .double => "f64"
  | .bool => "bool"
  | .text => "String"
  | .dateTime => "DateTime"
  | .date => "Date"
  | .uuid => "Uuid"
  | .enum name _ => s!"enum {name}"
  | .object entity => s!"object {entity}"

end ValueType

end RecordFilter
