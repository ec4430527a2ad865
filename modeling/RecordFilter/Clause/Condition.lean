import RecordFilter.Clause
import RecordFilter.Literal
import RecordFilter.Predicate
import RecordFilter.Results

/-!
# Clauses as predicates

What a clause says about a field, and the predicate that it makes with a
schema.
-/

namespace RecordFilter

open RecordFilter.Results RecordFilter.Text

/-- What is asked of the value of a field. -/
inductive Test
  | comparison (op : CompareOp)
  | order (op : CompareOp)
  | search (op : TextOp)
  | range
  | choice
  | absence (negated : Bool)
deriving DecidableEq, Repr

/-- The test that an operator makes. -/
def Operator.test : Operator → Test
  | .equals => .comparison .eq
  | .notEquals => .comparison .ne
  | .greater => .order .gt
  | .greaterOrEqual => .order .ge
  | .less => .order .lt
  | .lessOrEqual => .order .le
  | .contains => .search .contains
  | .startsWith => .search .startsWith
  | .endsWith => .search .endsWith
  | .between => .range
  | .oneOf => .choice
  | .isNull => .absence false
  | .isNotNull => .absence true

namespace Clause

/-- Comparison of a field with the constant of a literal. -/
def comparison (r : FieldRef) (op : CompareOp) (literal : String) :
    Except FilterError Condition :=
  (Literal.constant r.type literal).map (Condition.compare r op)

/-- Comparison for order, which not every type has. -/
def orderComparison (c : Clause) (r : FieldRef) (op : CompareOp) (literal : String) :
    Except FilterError Condition :=
  if r.type.isOrdered then comparison r op literal
  else .error (.typeMismatch c.property c.operator r.type)

/-- Search for a pattern, in texts only. The pattern must not be blank, but
blanks around it count. -/
def search (c : Clause) (r : FieldRef) (op : TextOp) (literal : String) :
    Except FilterError Condition :=
  if r.type.isText then
    (Literal.constant r.type literal).map fun _ => .text r op (lower literal)
  else .error (.typeMismatch c.property c.operator r.type)

/-- The condition that the clause puts on a field. Values that an operator has
no use for are left alone, so a literal among them cannot be wrong. -/
def condition (c : Clause) (r : FieldRef) : Except FilterError Condition :=
  match c.operator.test, c.values with
  | .comparison op, v :: _ => comparison r op v
  | .order op, v :: _ => c.orderComparison r op v
  | .search op, v :: _ => c.search r op v
  | .range, [low, high] => do
    let lower ← c.orderComparison r .ge low
    let upper ← c.orderComparison r .le high
    return lower.and upper
  | .choice, v :: vs => do
    let terms ← (v :: vs).mapM (comparison r .eq)
    return .anyOf terms
  | .absence negated, _ => .ok (.null r negated)
  | _, values => .error (.wrongCount c.property c.operator c.operator.arity values.length)

/-! ## References -/

theorem references_comparison {r : FieldRef} {op : CompareOp} {literal : String}
    {result : Condition} (h : comparison r op literal = .ok result) :
    result.references = [r] := by
  obtain ⟨v, -, rfl⟩ := map_eq_ok_iff.mp h
  rfl

theorem references_orderComparison {c : Clause} {r : FieldRef} {op : CompareOp}
    {literal : String} {result : Condition}
    (h : c.orderComparison r op literal = .ok result) : result.references = [r] := by
  unfold orderComparison at h
  split at h
  · exact references_comparison h
  · cases h

theorem references_search {c : Clause} {r : FieldRef} {op : TextOp} {literal : String}
    {result : Condition} (h : c.search r op literal = .ok result) :
    result.references = [r] := by
  unfold search at h
  split at h
  · obtain ⟨v, -, rfl⟩ := map_eq_ok_iff.mp h
    rfl
  · cases h

private theorem allReferences_mapM {r : FieldRef} {op : CompareOp} {literals : List String}
    {terms : List Condition} (h : literals.mapM (comparison r op) = .ok terms) :
    ∀ r' ∈ Condition.allReferences terms, r' = r := by
  induction literals generalizing terms with
  | nil =>
    obtain rfl : [] = terms := by simpa [pure, Except.pure] using h
    simp [Condition.allReferences]
  | cons v rest ih =>
    rw [mapM_cons] at h
    obtain ⟨c, first, found⟩ := bind_eq_ok_iff.mp h
    obtain ⟨cs, others, rfl⟩ := map_eq_ok_iff.mp found
    intro r' member
    simp only [Condition.allReferences, references_comparison first, List.mem_append,
      List.mem_singleton] at member
    exact member.elim id (ih others r')

theorem references_anyOf (terms : List Condition) :
    (Condition.anyOf terms).references = Condition.allReferences terms := by
  unfold Condition.anyOf
  split <;> simp [Condition.references, Condition.allReferences]

/-- A clause says something about its own field only. -/
theorem references_condition {c : Clause} {r : FieldRef} {result : Condition}
    (h : c.condition r = .ok result) : ∀ r' ∈ result.references, r' = r := by
  unfold condition at h
  split at h
  · simp [references_comparison h]
  · simp [references_orderComparison h]
  · simp [references_search h]
  · rename_i low high _ _
    obtain ⟨lower, first, others⟩ := bind_eq_ok_iff.mp h
    obtain ⟨upper, second, made⟩ := bind_eq_ok_iff.mp others
    obtain rfl := Except.ok.inj made
    simp [Condition.references_and, references_orderComparison first,
      references_orderComparison second]
  · rename_i v vs _ _
    obtain ⟨terms, found, made⟩ := bind_eq_ok_iff.mp h
    obtain rfl := Except.ok.inj made
    rw [references_anyOf]
    exact allReferences_mapM found
  · cases h
    simp [Condition.references]
  · cases h

end Clause

namespace Predicate

variable {T : Type}

/-- The predicate of a clause: its property is resolved first, and then its
literals are read. -/
def ofClause (schema : Schema T) (c : Clause) : Except FilterError (Predicate schema) :=
  match resolved : schema.resolve c.property with
  | .error e => .error e
  | .ok r =>
    match made : c.condition r with
    | .error e => .error e
    | .ok condition => .ok ⟨condition, fun r' member => by
        rw [Clause.references_condition made r' member]
        exact Schema.owns_of_resolve resolved⟩

end Predicate

end RecordFilter
