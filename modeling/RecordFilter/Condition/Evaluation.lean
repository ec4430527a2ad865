import RecordFilter.Condition

/-!
# Evaluation of conditions

The truth of a condition on a record. A missing value equals nothing and is
ordered against nothing, so of the comparisons only "not equal" holds for it.
Text is searched in lower case.
-/

namespace RecordFilter

open RecordFilter.Text

/-- Whether the actual value stands in the relation to the constant. -/
def CompareOp.holds (op : CompareOp) (actual constant : Value) : Bool :=
  if actual.isNull then op = .ne
  else
    match op with
    | .eq => actual == constant
    | .ne => !(actual == constant)
    | .gt => actual.compare? constant = some .gt
    | .ge => actual.compare? constant = some .gt || actual.compare? constant = some .eq
    | .lt => actual.compare? constant = some .lt
    | .le => actual.compare? constant = some .lt || actual.compare? constant = some .eq

/-- Whether the pattern is found in the text. -/
def TextOp.holds (op : TextOp) (text pattern : List Char) : Bool :=
  match op with
  -- there is more than one decision procedure for stretches, so it is named
  | .contains => @decide (pattern <:+: text) (List.instDecidableIsInfixOfDecidableEq _ _)
  | .startsWith => pattern <+: text
  | .endsWith => pattern <:+ text

/-- Whether the pattern is found in a value, which has to be a text. -/
def TextOp.holdsFor (op : TextOp) (actual : Value) (pattern : String) : Bool :=
  match actual.text? with
  | some s => op.holds (lowerChars s.toList) pattern.toList
  | none => false

namespace Condition

variable {T : Type}

mutual

/-- The truth of a condition on a record. A test on a field that the schema
does not have is false. -/
def holds (schema : Schema T) (record : T) : Condition → Bool
  | .always => true
  | .compare field op value =>
    match schema.fieldAt? field.index with
    | some f => op.holds (f.value record) value
    | none => false
  | .text field op pattern =>
    match schema.fieldAt? field.index with
    | some f => op.holdsFor (f.value record) pattern
    | none => false
  | .null field negated =>
    match schema.fieldAt? field.index with
    | some f => (f.value record).isNull != negated
    | none => false
  | .all terms => allHold schema record terms
  | .any terms => anyHolds schema record terms

/-- Whether every condition of the list is true on a record. -/
def allHold (schema : Schema T) (record : T) : List Condition → Bool
  | [] => true
  | c :: rest => c.holds schema record && allHold schema record rest

/-- Whether some condition of the list is true on a record. -/
def anyHolds (schema : Schema T) (record : T) : List Condition → Bool
  | [] => false
  | c :: rest => c.holds schema record || anyHolds schema record rest

end

end Condition

end RecordFilter
