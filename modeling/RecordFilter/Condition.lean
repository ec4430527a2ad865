import RecordFilter.Schema

/-!
# Conditions

A condition is a tree of tests on the fields of a record. The tests refer to
fields by position, so a condition has a meaning only with a schema.
-/

namespace RecordFilter

/-- How a value is compared with a constant. -/
inductive CompareOp
  | eq | ne | gt | ge | lt | le
deriving DecidableEq, Repr

/-- Where a pattern is looked for in a text. -/
inductive TextOp
  | contains | startsWith | endsWith
deriving DecidableEq, Repr

/-- A test on the fields of a record. Patterns of text tests are in lower
case. An empty conjunction is true, an empty disjunction false. -/
inductive Condition
  | always
  | compare (field : FieldRef) (op : CompareOp) (value : Value)
  | text (field : FieldRef) (op : TextOp) (pattern : String)
  | null (field : FieldRef) (negated : Bool)
  | all (terms : List Condition)
  | any (terms : List Condition)

namespace Condition

/-! ## Composition -/

/-- The terms of a conjunction, or the condition as its only term. -/
def conjuncts : Condition → List Condition
  | .all terms => terms
  | c => [c]

/-- The terms of a disjunction, or the condition as its only term. -/
def disjuncts : Condition → List Condition
  | .any terms => terms
  | c => [c]

/-- Conjunction of two conditions, without a conjunction right inside. -/
def and (a b : Condition) : Condition :=
  .all (a.conjuncts ++ b.conjuncts)

/-- Disjunction of two conditions, without a disjunction right inside. -/
def or (a b : Condition) : Condition :=
  .any (a.disjuncts ++ b.disjuncts)

/-- Disjunction of a list; a single condition stands for itself. -/
def anyOf : List Condition → Condition
  | [c] => c
  | terms => .any terms

/-! ## Leaves -/

mutual

/-- The number of tests in the tree. -/
def leafCount : Condition → Nat
  | .always => 0
  | .compare .. | .text .. | .null .. => 1
  | .all terms => leafCounts terms
  | .any terms => leafCounts terms

/-- The number of tests in all of the trees. -/
def leafCounts : List Condition → Nat
  | [] => 0
  | c :: rest => c.leafCount + leafCounts rest

end

mutual

/-- The references of the tests from left to right. -/
def references : Condition → List FieldRef
  | .always => []
  | .compare field _ _ => [field]
  | .text field _ _ => [field]
  | .null field _ => [field]
  | .all terms => allReferences terms
  | .any terms => allReferences terms

/-- The references of all of the trees from left to right. -/
def allReferences : List Condition → List FieldRef
  | [] => []
  | c :: rest => c.references ++ allReferences rest

end

/-! ## Equality -/

mutual

/-- Equality of trees, in which constants are equal as values. -/
def equal : Condition → Condition → Bool
  | .always, .always => true
  | .compare f o v, .compare f' o' v' => f == f' && o == o' && v == v'
  | .text f o p, .text f' o' p' => f == f' && o == o' && p == p'
  | .null f n, .null f' n' => f == f' && n == n'
  | .all terms, .all terms' => equalLists terms terms'
  | .any terms, .any terms' => equalLists terms terms'
  | _, _ => false

/-- Equality of lists of trees, term by term. -/
def equalLists : List Condition → List Condition → Bool
  | [], [] => true
  | c :: rest, c' :: rest' => c.equal c' && equalLists rest rest'
  | _, _ => false

end

instance : BEq Condition := ⟨equal⟩

/-- Whether the condition is the one that is always true. -/
def isAlways : Condition → Bool
  | .always => true
  | _ => false

end Condition

end RecordFilter
