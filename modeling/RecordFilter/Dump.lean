import RecordFilter.Condition.Rendering
import RecordFilter.Policy

/-!
# Dumps

Texts that show how a thing is made up: the name of a record or a variant and
everything in it, in the order of the declaration.
-/

namespace RecordFilter.Dump

open RecordFilter.Number RecordFilter.Text

/-! ## Forms -/

/-- Parts with commas between them. -/
def sequence (parts : List String) : String :=
  String.intercalate ", " parts

/-- A name with named parts in braces. -/
def record (name : String) (parts : List (String × String)) : String :=
  name ++ " \x7b " ++ sequence (parts.map fun (part, value) => part ++ ": " ++ value) ++ " \x7d"

/-- A name with one part in parentheses. -/
def variant (name part : String) : String :=
  name ++ "(" ++ part ++ ")"

/-- Parts in square brackets. -/
def list (parts : List String) : String :=
  "[" ++ sequence parts ++ "]"

/-- Parts in braces. -/
def set (parts : List String) : String :=
  "\x7b" ++ sequence parts ++ "\x7d"

/-- A part that may be missing. -/
def optional : Option String → String
  | some part => variant "Some" part
  | none => "None"

def bool (b : Bool) : String :=
  if b then "true" else "false"

def nat (n : Nat) : String :=
  String.ofList (digits n)

/-! ## Types, values and conditions -/

def valueType : ValueType → String
  | .int t => variant "Int" ((if t.signed then "I" else "U") ++ nat t.width.bits)
  | .float .single => variant "Float" "F32"
  | .float .double => variant "Float" "F64"
  | .bool => "Bool"
  | .text => "String"
  | .dateTime => "DateTime"
  | .date => "Date"
  | .uuid => "Uuid"
  | .enum name variants =>
    record "Enum" [("name", quote name), ("variants", list (variants.map quote))]
  | .object entity => record "Object" [("name", quote entity)]

def value : Value → String
  | .null => "Null"
  | .bool b => variant "Bool" (bool b)
  | .int n => variant "Int" (String.ofList (signedDigits n))
  | .uint n => variant "UInt" (nat n)
  | .float x => variant "Float" (markedFloat x)
  | .text s => variant "String" (quote s)
  | .dateTime t => variant "DateTime" t.text
  | .date d => variant "Date" d.text
  | .uuid u => variant "Uuid" u.text
  | .enum index => variant "Enum" (nat index)
  | .object => "Object"

def fieldRef (r : FieldRef) : String :=
  record "PropertyRef"
    [("path", quote r.path), ("index", nat r.index), ("value_type", valueType r.type),
     ("nullable", bool r.nullable)]

def compareOp : CompareOp → String
  | .eq => "Eq"
  | .ne => "Ne"
  | .gt => "Gt"
  | .ge => "Ge"
  | .lt => "Lt"
  | .le => "Le"

def textOp : TextOp → String
  | .contains => "Contains"
  | .startsWith => "StartsWith"
  | .endsWith => "EndsWith"

mutual

def condition : Condition → String
  | .always => "True"
  | .compare field op constant =>
    record "Compare"
      [("property", fieldRef field), ("op", compareOp op), ("value", value constant)]
  | .text field op pattern =>
    record "Text" [("property", fieldRef field), ("op", textOp op), ("pattern", quote pattern)]
  | .null field negated =>
    record "Null" [("property", fieldRef field), ("negated", bool negated)]
  | .all terms => variant "All" (list (conditions terms))
  | .any terms => variant "Any" (list (conditions terms))

def conditions : List Condition → List String
  | [] => []
  | c :: rest => condition c :: conditions rest

end

/-! ## Schemas, predicates and policies -/

variable {T : Type}

def field (f : Field T) : String :=
  record "Field"
    [("path", quote f.path), ("value_type", valueType f.type), ("nullable", bool f.nullable)]

def schema (s : Schema T) : String :=
  record "Schema" [("entity", quote s.entity), ("fields", list (s.fields.map field))]

def predicate {s : Schema T} (p : Predicate s) : String :=
  variant "Predicate" (condition p.condition)

def policy (p : Policy) : String :=
  record "FilterParser"
    [("whitelist", optional (p.whitelist.map fun w => set (w.spellings.map quote))),
     ("max_clauses", optional (p.maxClauses.map nat))]

/-- What makes predicates of clauses has no parts to show. -/
def clauseCompiler : String :=
  "FilterExpressionBuilder"

end RecordFilter.Dump
