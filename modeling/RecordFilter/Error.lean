import RecordFilter.Literal.Fault
import RecordFilter.Operator

/-!
# Errors

What can be wrong with a filter, with its wording and the part of the filter
that is to blame. All but two of the errors come from the filter itself; the
others say that the schema is defective.
-/

namespace RecordFilter

/-- Defects of a schema. -/
inductive SchemaFault
  | ambiguousPath (path entity : String)
deriving DecidableEq, Repr

def SchemaFault.message : SchemaFault → String
  | .ambiguousPath path entity => s!"Property path '{path}' on {entity} matches more than one member"

/-- Why a filter, a clause or a path is refused. -/
inductive FilterError
  | malformedClause (segment : String)
  | unknownOperator (token segment : String)
  | propertyNotAllowed (property : String)
  | propertyNotFound (path entity : String)
  | valueRequired (property : String) (operator : Operator)
  | wrongCount (property : String) (operator : Operator) (expected : Arity) (actual : Nat)
  | invalidValue (literal : String) (type : ValueType) (fault : LiteralFault)
  | typeMismatch (property : String) (operator : Operator) (type : ValueType)
  | tooManyClauses (count limit : Nat)
  | schema (fault : SchemaFault)
  | unexpected (filter : String) (fault : SchemaFault)
deriving DecidableEq, Repr

namespace FilterError

def message : FilterError → String
  | .malformedClause segment =>
    s!"Malformed filter clause '{segment}': expected 'property|operator[|values]'"
  | .unknownOperator token segment =>
    s!"Unsupported filter operator '{token}' in clause '{segment}'"
  | .propertyNotAllowed property => s!"Filtering on property '{property}' is not allowed"
  | .propertyNotFound path entity => s!"Property '{path}' not found on {entity}"
  | .valueRequired property operator =>
    s!"A value is required for operator '{operator.token}' on property '{property}'"
  | .wrongCount property operator expected actual =>
    s!"Operator '{operator.token}' on property '{property}' expects {expected.render} " ++
      s!"value(s), got {actual}"
  | .invalidValue literal type fault =>
    s!"Cannot convert '{literal}' to {type.render}: {fault.message}"
  | .typeMismatch property operator type =>
    s!"Operator '{operator.token}' cannot be applied to property '{property}' " ++
      s!"of type {type.render}"
  | .tooManyClauses count limit =>
    s!"Filter has {count} clauses, more than the allowed {limit}"
  | .schema fault => fault.message
  | .unexpected filter fault =>
    s!"Unexpected failure while processing filter '{filter}': {fault.message}"

/-- The part of the filter that is to blame, if one can be pointed at. -/
def blamed? : FilterError → Option String
  | .malformedClause segment => some segment
  | .unknownOperator _ segment => some segment
  | .propertyNotAllowed property => some property
  | .propertyNotFound path _ => some path
  | .valueRequired property _ => some property
  | .wrongCount property _ _ _ => some property
  | .invalidValue literal _ _ => some literal
  | .typeMismatch property _ _ => some property
  | .tooManyClauses _ _ => none
  | .schema _ => none
  | .unexpected filter _ => some filter

/-- Whether the filter is at fault rather than the schema. -/
def isFromFilter : FilterError → Bool
  | .schema _ | .unexpected _ _ => false
  | _ => true

/-- The error as part of the processing of a whole filter: a defect of the
schema then says which filter met it. -/
def inFilter (filter : String) : FilterError → FilterError
  | .schema fault => .unexpected filter fault
  | e => e

end FilterError

end RecordFilter
