import RecordFilter.Condition

/-!
# Conditions in writing

A condition is written with the paths of its fields. The constant of an
enumeration is written by the name of its variant.
-/

namespace RecordFilter

open RecordFilter.Text

def CompareOp.symbol : CompareOp → String
  | .eq => "=="
  | .ne => "!="
  | .gt => ">"
  | .ge => ">="
  | .lt => "<"
  | .le => "<="

def TextOp.name : TextOp → String
  | .contains => "contains"
  | .startsWith => "starts_with"
  | .endsWith => "ends_with"

/-- A constant as it is written beside a field of the type. -/
def Value.renderAs (v : Value) (type : ValueType) : String :=
  match v, type with
  | .enum index, .enum _ variants => variants.getD index v.render
  | _, _ => v.render

namespace Condition

/-- Terms in parentheses with a sign between them, or what stands for none. -/
def renderJoined (sign ifNone : String) (terms : List String) : String :=
  if terms.isEmpty then ifNone else "(" ++ String.intercalate sign terms ++ ")"

mutual

/-- The condition in writing. -/
def render : Condition → String
  | .always => "true"
  | .compare field op value =>
    field.path ++ " " ++ op.symbol ++ " " ++ value.renderAs field.type
  | .text field op pattern =>
    "lower(" ++ field.path ++ ")." ++ op.name ++ "(" ++ quote pattern ++ ")"
  | .null field negated => field.path ++ (if negated then " != null" else " == null")
  | .all terms => renderJoined " && " "true" (renderAll terms)
  | .any terms => renderJoined " || " "false" (renderAll terms)

/-- Each condition of the list in writing. -/
def renderAll : List Condition → List String
  | [] => []
  | c :: rest => c.render :: renderAll rest

end

end Condition

end RecordFilter
