import RecordFilter.Proofs.Applicability
import RecordFilter.Proofs.Grammar
import RecordFilter.Proofs.Meaning

/-!
# Tests of a field

The predicate that a property, an operator and values make, if they make one,
in terms of the value that a record has in the field that the property means:
one lemma for each kind of test.
-/

namespace RecordFilter

open Results Text

variable {T : Type}

theorem Operator.takesValues_iff {operator : Operator} :
    operator.takesValues = true ↔ ∀ negated, operator.test ≠ .absence negated := by
  cases operator <;> simp [takesValues, test]

/-- The property, the operator and the values make a clause, and the clause
makes the predicate. -/
def Schema.Tests (schema : Schema T) (property : String) (operator : Operator)
    (values : List String) (p : Predicate schema) : Prop :=
  (Clause.ofParts property operator values).bind (Predicate.ofClause schema) = .ok p

namespace Schema

variable {schema : Schema T} {path : String} {i : Nat} {f : Field T} {operator : Operator}
  {values : List String} {v low high : String} {p : Predicate schema}

theorem fieldAt?_refTo (means : schema.Means path i f) :
    schema.fieldAt? (refTo f i).index = some f :=
  means.1.1

/-- A predicate that is made comes from a clause, whose condition is one on the
field that the path means. -/
theorem Tests.exists_clause (means : schema.Means path i f)
    (made : schema.Tests path operator values p) :
    ∃ c, Clause.ofParts path operator values = .ok c ∧
      c.condition (refTo f i) = .ok p.condition := by
  obtain ⟨c, parts, made⟩ := bind_eq_ok_iff.mp made
  obtain ⟨-, -, property, -, -⟩ := Clause.ofParts_eq_ok_iff.mp parts
  have resolved : schema.resolve c.property = .ok (refTo f i) :=
    resolve_eq_ok_iff_means.mpr ⟨i, f, property ▸ means, rfl⟩
  refine ⟨c, parts, ?_⟩
  rw [← Clause.conditionIn_of_resolve resolved]
  exact Predicate.conditionIn_of_ofClause made

theorem Tests.holds_iff (means : schema.Means path i f)
    (made : schema.Tests path operator values p) :
    ∃ c : Clause, c.operator = operator ∧
      ∀ record, p.holds record = true ↔ c.Holds f.type (f.value record) := by
  obtain ⟨c, parts, made⟩ := made.exists_clause means
  obtain ⟨-, -, -, operator, -⟩ := Clause.ofParts_eq_ok_iff.mp parts
  have agree := Clause.holds_condition_iff (fieldAt?_refTo means) made
  exact ⟨c, operator, agree⟩

/-- A test against one literal compares with the constant of the literal. -/
theorem Tests.compares (means : schema.Means path i f)
    (made : schema.Tests path operator [v] p) {op : CompareOp}
    (test : operator.test = .comparison op ∨ operator.test = .order op) :
    ∃ constant, Literal.constant f.type v = .ok constant ∧
      ∀ record, p.holds record = op.holds (f.value record) constant := by
  obtain ⟨c, parts, compiled⟩ := made.exists_clause means
  obtain ⟨-, -, -, rfl, values⟩ := Clause.ofParts_eq_ok_iff.mp parts
  have takes : c.operator.takesValues = true := by
    rw [Operator.takesValues_iff]
    rcases test with test | test <;> simp [test]
  rw [if_pos takes] at values
  have comparison : Clause.comparison (refTo f i) op v = .ok p.condition := by
    rcases test with test | test
    · rw [Clause.condition_of_comparison test values] at compiled
      exact compiled
    · rw [Clause.condition_of_order test values] at compiled
      exact Clause.comparison_of_orderComparison compiled
  obtain ⟨constant, read, condition⟩ := map_eq_ok_iff.mp comparison
  refine ⟨constant, read, fun record => ?_⟩
  rw [Bool.eq_iff_iff, Predicate.holds, ← condition, Clause.holds_compare means.1.1,
    CompareOp.holds_iff]

theorem Tests.holds_eq (means : schema.Means path i f)
    (made : schema.Tests path operator [v] p) {op : CompareOp}
    (test : operator.test = .comparison op ∨ operator.test = .order op) {constant : Value}
    (read : Literal.constant f.type v = .ok constant) (record : T) :
    p.holds record = op.holds (f.value record) constant := by
  obtain ⟨constant', read', holds⟩ := made.compares means test
  obtain rfl := Except.ok.inj (read.symm.trans read')
  exact holds record

/-- A range holds what is between the constants of its bounds. -/
theorem Tests.ranges (means : schema.Means path i f)
    (made : schema.Tests path .between [low, high] p) :
    ∃ a b, Literal.constant f.type low = .ok a ∧ Literal.constant f.type high = .ok b ∧
      ∀ record, p.holds record = true ↔
        (f.value record).Stands Ordering.isGE a ∧ (f.value record).Stands Ordering.isLE b := by
  obtain ⟨c, parts, compiled⟩ := made.exists_clause means
  obtain ⟨-, -, -, operator, values⟩ := Clause.ofParts_eq_ok_iff.mp parts
  have inversion := Clause.condition_eq_ok compiled
  rw [operator] at inversion
  obtain ⟨low', high', lower, upper, values', first, second, condition⟩ := inversion
  obtain ⟨rfl, rfl⟩ : low = low' ∧ high = high' := by
    simpa [Operator.takesValues] using values.symm.trans values'
  obtain ⟨a, readLow, rfl⟩ := map_eq_ok_iff.mp (Clause.comparison_of_orderComparison first)
  obtain ⟨b, readHigh, rfl⟩ := map_eq_ok_iff.mp (Clause.comparison_of_orderComparison second)
  refine ⟨a, b, readLow, readHigh, fun record => ?_⟩
  rw [Predicate.holds, condition, Condition.holds_and, Bool.and_eq_true,
    Clause.holds_compare means.1.1, Clause.holds_compare means.1.1]
  rfl

theorem Tests.absence (means : schema.Means path i f)
    (made : schema.Tests path operator values p) {negated : Bool}
    (test : operator.test = .absence negated) (record : T) :
    p.holds record = ((f.value record).isNull != negated) := by
  obtain ⟨c, parts, compiled⟩ := made.exists_clause means
  obtain ⟨-, -, -, rfl, -⟩ := Clause.ofParts_eq_ok_iff.mp parts
  rw [Clause.condition_of_absence test] at compiled
  rw [Predicate.holds, ← Except.ok.inj compiled, Condition.holds, fieldAt?_refTo means]

/-- A test with values is made if it applies to the type of the field. -/
theorem exists_tests (means : schema.Means path i f) (named : isBlank path = false)
    (takes : operator.takesValues = true) (some : values ≠ [])
    (applies : ∀ c : Clause, c.operator = operator → c.values = values → c.Applies f.type) :
    ∃ p, schema.Tests path operator values p := by
  have filled : values.isEmpty = false := by simpa using some
  obtain ⟨c, property, rfl, rfl⟩ :
      ∃ c : Clause, c.property = path ∧ c.operator = operator ∧ c.values = values :=
    ⟨⟨path, operator, values, named, by rw [takes, filled]; rfl⟩, rfl, rfl, rfl⟩
  have parts : Clause.ofParts path c.operator c.values = .ok c :=
    Clause.ofParts_eq_ok_iff.mpr ⟨named, by simp [some], property, rfl, by rw [if_pos takes]⟩
  have resolved : schema.resolve c.property = .ok (refTo f i) :=
    resolve_eq_ok_iff_means.mpr ⟨i, f, property ▸ means, rfl⟩
  obtain ⟨p, made⟩ := (Predicate.exists_ofClause_iff_applies resolved).mpr (applies c rfl rfl)
  exact ⟨p, bind_eq_ok_iff.mpr ⟨c, parts, made⟩⟩

/-- A search in a field of texts is made for every pattern that is not
blank. -/
theorem exists_tests_search (means : schema.Means path i f) (named : isBlank path = false)
    (text : f.type = .text) (filled : isBlank v = false) {op : TextOp}
    (test : operator.test = .search op) :
    ∃ p, schema.Tests path operator [v] p ∧
      ∀ record, p.holds record = op.holdsFor (f.value record) (lower v) := by
  have takes : operator.takesValues = true := by
    rw [Operator.takesValues_iff]
    simp [test]
  obtain ⟨c, property, rfl, values⟩ :
      ∃ c : Clause, c.property = path ∧ c.operator = operator ∧ c.values = [v] :=
    ⟨⟨path, operator, [v], named, by rw [takes]; rfl⟩, rfl, rfl, rfl⟩
  have parts : Clause.ofParts path c.operator [v] = .ok c :=
    Clause.ofParts_eq_ok_iff.mpr ⟨named, by simp, property, rfl, by rw [if_pos takes, values]⟩
  have resolved : schema.resolve c.property = .ok (refTo f i) :=
    resolve_eq_ok_iff_means.mpr ⟨i, f, property ▸ means, rfl⟩
  have compiled : c.conditionIn schema = .ok (.text (refTo f i) op (lower v)) := by
    rw [Clause.conditionIn_of_resolve resolved, Clause.condition_of_search test values]
    exact Clause.search_of_text text filled
  obtain ⟨p, made, condition⟩ := Predicate.exists_ofClause compiled
  refine ⟨p, bind_eq_ok_iff.mpr ⟨c, parts, made⟩, fun record => ?_⟩
  rw [Predicate.holds, condition, Condition.holds, fieldAt?_refTo means]

end Schema

end RecordFilter
