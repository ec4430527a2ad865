import RecordFilter.Calendar.Layout
import RecordFilter.Number.FloatLiteral
import RecordFilter.Value.Type

/-!
# Faults of literals
-/

namespace RecordFilter

open RecordFilter.Number RecordFilter.Calendar

/-- Why a literal is no value of a type. -/
inductive LiteralFault
  | empty
  | int (fault : IntFault)
  | float
  | bool
  | dateTime (fault : LayoutFault)
  | uuid (fault : UuidFault)
  | unknownVariant (name : String) (variants : List String)
  | unsupported (type : ValueType)
deriving DecidableEq, Repr

def LiteralFault.message : LiteralFault → String
  | .empty => "literal is empty"
  | .int fault => fault.message
  | .float => FloatLiteral.fault
  | .bool => "expected 'true' or 'false'"
  | .dateTime fault => s!"unrecognised date/time format ({fault.message})"
  | .uuid fault => fault.message
  | .unknownVariant name variants =>
    s!"no variant of {name} matches (expected one of: " ++ String.intercalate ", " variants ++ ")"
  | .unsupported type => type.render ++ " members cannot be compared with a literal"

end RecordFilter
