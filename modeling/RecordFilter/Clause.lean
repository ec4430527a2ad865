import RecordFilter.Error
import RecordFilter.Text.Pieces

/-!
# Clauses

A filter is a list of clauses with semicolons between them. A clause names a
property, an operator and, for most operators, values:
`property|operator|value,value`. The text of the values may contain further
bars, which belong to the values.
-/

namespace RecordFilter

open RecordFilter.Text

/-- Reads an operator's token, with blanks around it and in any case. -/
def Operator.read (s : String) : Except FilterError Operator :=
  match ofToken? (tokenOf s) with
  | some operator => .ok operator
  | none => .error (.unknownOperator (tokenOf s) s)

/-- One test on one property. There are values if and only if the operator
takes them. -/
structure Clause where
  property : String
  operator : Operator
  values : List String
  property_notBlank : isBlank property = false
  values_isEmpty : values.isEmpty = !operator.takesValues
deriving DecidableEq

namespace Clause

/-- The clause of these parts. A test for null drops its values. -/
def ofParts (property : String) (operator : Operator) (values : List String) :
    Except FilterError Clause :=
  if blank : isBlank property then
    .error (.malformedClause s!"{property}|{operator.token}")
  else
    if takes : operator.takesValues then
      if empty : values.isEmpty then .error (.valueRequired property operator)
      else .ok ⟨property, operator, values, by simpa using blank, by simp [takes, empty]⟩
    else .ok ⟨property, operator, [], by simpa using blank, by simp [takes]⟩

/-- A test for null, or for anything but null. -/
def nullTest (property : String) (negated : Bool) : Except FilterError Clause :=
  ofParts property (if negated then .isNotNull else .isNull) []

/-- The values in a list with commas, without blanks around them; blank ones
are left out. -/
def splitValues (s : String) : List String :=
  ((pieces ',' s).map trim).filter (· ≠ "")

/-- Reads one clause. Blanks around the property, the operator and each value
do not count. -/
def parse (segment : String) : Except FilterError Clause :=
  match cut '|' segment with
  | (_, none) => .error (.malformedClause segment)
  | (front, some rest) =>
    let (middle, back) := cut '|' rest
    let property := trim front
    let token := Operator.tokenOf middle
    if property = "" ∨ token = "" then .error (.malformedClause segment)
    else
      match Operator.ofToken? token with
      | none => .error (.unknownOperator token segment)
      | some operator =>
        ofParts property operator (splitValues (back.getD ""))

/-- The clause in the form in which it is read. -/
def render (c : Clause) : String :=
  let head := s!"{c.property}|{c.operator.token}"
  if c.values.isEmpty then head else head ++ "|" ++ String.intercalate "," c.values

/-- The segments of a filter, without blanks around them; blank ones are left
out. -/
def segments (filter : String) : List String :=
  ((pieces ';' filter).map trim).filter (· ≠ "")

end Clause

end RecordFilter
