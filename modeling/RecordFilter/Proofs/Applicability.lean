import RecordFilter.Proofs.Compilation
import RecordFilter.Proofs.Resolution
import RecordFilter.Proofs.Trimming

/-!
# Clauses that apply to a field

When a clause makes a predicate, and which error it ends with otherwise. After
the property has been resolved, the number of values is checked, then whether
the operator suits the type of the field, and at last the literals are read,
those that the operator has a use for. The first check that fails decides.
-/

namespace RecordFilter

open Text Results

variable {T : Type}

/-! ## Literals -/

namespace Literal

/-- Only a blank literal is no text. -/
theorem constant_text_eq_error_iff {literal : String} {e : FilterError} :
    constant .text literal = .error e ↔
      isBlank literal = true ∧ e = .invalidValue literal .text .empty := by
  unfold constant read
  rw [← trim_eq_empty_iff]
  by_cases blank : trim literal = ""
  · simp [blank, eq_comm]
  · simp [blank]

/-- What is wrong with a literal is reported with the literal. -/
theorem constant_eq_error_iff {t : ValueType} {literal : String} {e : FilterError} :
    constant t literal = .error e ↔
      ∃ fault, read t literal = .error fault ∧ e = .invalidValue literal t fault := by
  unfold constant
  split
  · rename_i found
    simp [found]
  · rename_i fault found
    simp [found, eq_comm]

/-- No literal stands for an object. -/
theorem exists_constant_object_error (entity literal : String) :
    ∃ e, constant (.object entity) literal = .error e := by
  unfold constant read
  by_cases blank : trim literal = "" <;> simp [blank]

end Literal

namespace Clause

/-! ## What a clause needs -/

/-- The literal can be read as a constant of the type. -/
def Readable (t : ValueType) (literal : String) : Prop :=
  ∃ constant, Literal.constant t literal = .ok constant

/-- The reading of the literal as a constant of the type fails in this way. -/
def Unreadable (t : ValueType) (literal : String) (e : FilterError) : Prop :=
  Literal.constant t literal = .error e

/-- The operator of the clause is not one for the type. -/
def mismatch (c : Clause) (t : ValueType) : FilterError :=
  .typeMismatch c.property c.operator t

/-- The clause can be put to a field of the type. -/
def Applies (c : Clause) (t : ValueType) : Prop :=
  match c.operator with
  | .equals | .notEquals => ∃ v rest, c.values = v :: rest ∧ Readable t v
  | .greater | .greaterOrEqual | .less | .lessOrEqual =>
    t.isOrdered = true ∧ ∃ v rest, c.values = v :: rest ∧ Readable t v
  | .contains | .startsWith | .endsWith =>
    t = .text ∧ ∃ v rest, c.values = v :: rest ∧ isBlank v = false
  | .between => ∃ low high, c.values = [low, high] ∧
    t.isOrdered = true ∧ Readable t low ∧ Readable t high
  | .oneOf => ∀ v ∈ c.values, Readable t v
  | .isNull | .isNotNull => True

/-- What is wrong with the clause on a field of the type. -/
def Fails (c : Clause) (t : ValueType) (e : FilterError) : Prop :=
  match c.operator with
  | .equals | .notEquals => ∃ v rest, c.values = v :: rest ∧ Unreadable t v e
  | .greater | .greaterOrEqual | .less | .lessOrEqual =>
    (t.isOrdered = false ∧ e = c.mismatch t) ∨
    (t.isOrdered = true ∧ ∃ v rest, c.values = v :: rest ∧ Unreadable t v e)
  | .contains | .startsWith | .endsWith =>
    (t ≠ .text ∧ e = c.mismatch t) ∨
    (t = .text ∧ ∃ v rest, c.values = v :: rest ∧ isBlank v = true ∧
      e = .invalidValue v .text .empty)
  | .between =>
    (c.values.length ≠ 2 ∧
      e = .wrongCount c.property .between (.exactly 2) c.values.length) ∨
    (c.values.length = 2 ∧ t.isOrdered = false ∧ e = c.mismatch t) ∨
    (c.values.length = 2 ∧ t.isOrdered = true ∧ Leftmost (Unreadable t) c.values e)
  | .oneOf => Leftmost (Unreadable t) c.values e
  | .isNull | .isNotNull => False

variable {c : Clause} {r : FieldRef} {t : ValueType} {v low high : String} {rest : List String}
  {e : FilterError}

theorem exists_values (takes : c.operator.takesValues = true) :
    ∃ v rest, c.values = v :: rest := by
  have nonempty := c.values_isEmpty
  rw [takes] at nonempty
  cases values : c.values with
  | nil => rw [values] at nonempty; cases nonempty
  | cons v rest => exact ⟨v, rest, rfl⟩

theorem isText_iff : t.isText = true ↔ t = .text := by
  cases t <;> simp [ValueType.isText]

theorem readable_iff : Readable t v ↔ ∀ e, ¬ Unreadable t v e :=
  forall_ne_error_iff.symm

/-! ## The checks -/

section Checks

variable {op : CompareOp}

theorem comparison_eq_error_iff : comparison r op v = .error e ↔ Unreadable r.type v e :=
  map_eq_error_iff

theorem orderComparison_of_ordered (ordered : r.type.isOrdered = true) :
    c.orderComparison r op v = comparison r op v := by
  rw [orderComparison, if_pos ordered]

theorem orderComparison_of_unordered (unordered : r.type.isOrdered = false) :
    c.orderComparison r op v = .error (c.mismatch r.type) := by
  rw [orderComparison, if_neg (Bool.eq_false_iff.mp unordered), mismatch]

theorem orderComparison_eq_error_iff : c.orderComparison r op v = .error e ↔
    (r.type.isOrdered = false ∧ e = c.mismatch r.type) ∨
    (r.type.isOrdered = true ∧ Unreadable r.type v e) := by
  cases ordered : r.type.isOrdered with
  | true =>
      rw [orderComparison_of_ordered ordered, comparison_eq_error_iff]
      simp
  | false =>
      rw [orderComparison_of_unordered ordered, error_eq_error_iff]
      simp

theorem search_eq_error_iff {op : TextOp} : c.search r op v = .error e ↔
    (r.type ≠ .text ∧ e = c.mismatch r.type) ∨
    (r.type = .text ∧ isBlank v = true ∧ e = .invalidValue v .text .empty) := by
  unfold search
  split
  · rename_i text
    rw [isText_iff] at text
    rw [map_eq_error_iff, text, Literal.constant_text_eq_error_iff]
    simp
  · rename_i other
    rw [isText_iff] at other
    rw [error_eq_error_iff]
    simp [other, mismatch]

/-- In texts every pattern is looked for that is not blank. -/
theorem search_of_text {op : TextOp} (text : r.type = .text) (filled : isBlank v = false) :
    c.search r op v = .ok (.text r op (lower v)) := by
  obtain ⟨constant, read⟩ : ∃ constant, Literal.constant .text v = .ok constant := by
    rw [← forall_ne_error_iff]
    intro e failed
    rw [(Literal.constant_text_eq_error_iff.mp failed).1] at filled
    cases filled
  rw [search, if_pos (isText_iff.mpr text), text, read]
  rfl

end Checks

/-! ## By the kind of test -/

section Test

theorem condition_of_comparison {op : CompareOp} (test : c.operator.test = .comparison op)
    (values : c.values = v :: rest) : c.condition r = comparison r op v := by
  unfold condition
  rw [test, values]

theorem condition_of_order {op : CompareOp} (test : c.operator.test = .order op)
    (values : c.values = v :: rest) : c.condition r = c.orderComparison r op v := by
  unfold condition
  rw [test, values]

theorem condition_of_search {op : TextOp} (test : c.operator.test = .search op)
    (values : c.values = v :: rest) : c.condition r = c.search r op v := by
  unfold condition
  rw [test, values]

theorem condition_of_range (test : c.operator.test = .range) (values : c.values = [low, high]) :
    c.condition r = (c.orderComparison r .ge low).bind fun lower =>
      (c.orderComparison r .le high).map fun upper => lower.and upper := by
  unfold condition
  rw [test, values]
  rfl

theorem condition_of_wrongCount (test : c.operator.test = .range) (count : c.values.length ≠ 2) :
    c.condition r =
      .error (.wrongCount c.property c.operator c.operator.arity c.values.length) := by
  unfold condition
  rw [test]
  split <;> simp_all

theorem condition_of_choice (test : c.operator.test = .choice) (values : c.values ≠ []) :
    c.condition r = (c.values.mapM (comparison r .eq)).map .anyOf := by
  unfold condition
  rw [test]
  cases some : c.values with
  | nil => exact absurd some values
  | cons v rest => rfl

theorem condition_of_absence {negated : Bool} (test : c.operator.test = .absence negated) :
    c.condition r = .ok (.null r negated) := by
  unfold condition
  rw [test]

end Test

/-! ## What comes out -/

theorem exists_comparison_iff (op : CompareOp) :
    (∃ result, comparison r op v = .ok result) ↔ Readable r.type v := by
  rw [← forall_ne_error_iff, readable_iff]
  simp [comparison_eq_error_iff]

/-- The bounds of a range fail like a list of two. -/
theorem range_eq_error_iff (test : c.operator.test = .range) (values : c.values = [low, high])
    (ordered : r.type.isOrdered = true) :
    c.condition r = .error e ↔ Leftmost (Unreadable r.type) [low, high] e := by
  rw [condition_of_range test values, bind_eq_error_iff, leftmost_cons_iff, leftmost_cons_iff,
    ← readable_iff, ← exists_comparison_iff .ge]
  simp only [orderComparison_of_ordered ordered, comparison_eq_error_iff, map_eq_error_iff,
    exists_and_right, leftmost_nil_iff, and_false, or_false]

theorem choice_eq_error_iff (test : c.operator.test = .choice) (values : c.values ≠ []) :
    c.condition r = .error e ↔ Leftmost (Unreadable r.type) c.values e := by
  rw [condition_of_choice test values, map_eq_error_iff, mapM_eq_error_iff]
  simp only [comparison_eq_error_iff]

/-- On a field, a clause fails for the first of the reasons. -/
theorem condition_eq_error_iff : c.condition r = .error e ↔ c.Fails r.type e := by
  cases operator : c.operator <;> simp only [Fails, operator]
  case equals | notEquals =>
    obtain ⟨v, rest, values⟩ := exists_values (c := c) (by rw [operator]; rfl)
    rw [condition_of_comparison (by rw [operator]; rfl) values, comparison_eq_error_iff]
    simp [values]
  case greater | greaterOrEqual | less | lessOrEqual =>
    obtain ⟨v, rest, values⟩ := exists_values (c := c) (by rw [operator]; rfl)
    rw [condition_of_order (by rw [operator]; rfl) values, orderComparison_eq_error_iff]
    simp [values]
  case contains | startsWith | endsWith =>
    obtain ⟨v, rest, values⟩ := exists_values (c := c) (by rw [operator]; rfl)
    rw [condition_of_search (by rw [operator]; rfl) values, search_eq_error_iff]
    simp [values]
  case between =>
    have test : c.operator.test = .range := by rw [operator]; rfl
    by_cases count : c.values.length = 2
    · obtain ⟨low, high, values⟩ := List.length_eq_two.mp count
      cases ordered : r.type.isOrdered with
      | true =>
          rw [range_eq_error_iff test values ordered]
          simp [values]
      | false =>
          rw [condition_of_range test values, orderComparison_of_unordered ordered]
          show .error (c.mismatch r.type) = Except.error e ↔ _
          rw [error_eq_error_iff]
          simp [values]
    · rw [condition_of_wrongCount test count, error_eq_error_iff, operator]
      simp [count, Operator.arity]
  case oneOf =>
    obtain ⟨v, rest, values⟩ := exists_values (c := c) (by rw [operator]; rfl)
    exact choice_eq_error_iff (by rw [operator]; rfl) (by simp [values])
  case isNull | isNotNull =>
    rw [condition_of_absence (by rw [operator]; rfl)]
    simp

/-- Nothing is wrong with a clause exactly if it has all that it needs. -/
theorem applies_iff : c.Applies t ↔ ∀ e, ¬ c.Fails t e := by
  cases operator : c.operator <;> simp only [Applies, Fails, operator]
  case equals | notEquals =>
    obtain ⟨v, rest, values⟩ := exists_values (c := c) (by rw [operator]; rfl)
    simp [values, readable_iff]
  case greater | greaterOrEqual | less | lessOrEqual =>
    obtain ⟨v, rest, values⟩ := exists_values (c := c) (by rw [operator]; rfl)
    cases ordered : t.isOrdered <;> simp [values, readable_iff]
  case contains | startsWith | endsWith =>
    obtain ⟨v, rest, values⟩ := exists_values (c := c) (by rw [operator]; rfl)
    by_cases text : t = .text <;> simp [values, text]
  case between =>
    by_cases count : c.values.length = 2
    · obtain ⟨low, high, values⟩ := List.length_eq_two.mp count
      cases ordered : t.isOrdered <;> simp [values, forall_not_leftmost_iff, readable_iff]
    · have unpaired : ∀ low high, c.values ≠ [low, high] := by
        rintro low high values
        exact count (by rw [values]; rfl)
      simp [count, unpaired]
  case oneOf => simp [forall_not_leftmost_iff, readable_iff]
  case isNull | isNotNull => simp

/-! ## Consequences -/

/-- Every clause that compares with values fails on an object. -/
theorem not_applies_object (entity : String) (takes : c.operator.takesValues = true) :
    ¬ c.Applies (.object entity) := by
  have unreadable : ∀ v, ¬ Readable (.object entity) v := by
    rintro v ⟨constant, read⟩
    obtain ⟨e, failed⟩ := Literal.exists_constant_object_error entity v
    rw [failed] at read
    cases read
  obtain ⟨v, rest, values⟩ := exists_values takes
  cases operator : c.operator <;> simp only [Applies, operator]
  case isNull | isNotNull =>
    rw [operator] at takes
    cases takes
  case oneOf =>
    intro every
    exact unreadable v (every v (by simp [values]))
  all_goals simp [values, unreadable, ValueType.isOrdered]

/-- There is no clause that lacks the values of its operator altogether. -/
theorem not_fails_atLeast {property : String} {operator : Operator} {least actual : Nat} :
    ¬ c.Fails t (.wrongCount property operator (.atLeast least) actual) := by
  have readable : ∀ values : List String,
      ¬ Leftmost (Unreadable t) values (.wrongCount property operator (.atLeast least) actual) := by
    rintro values ⟨before, v, after, -, -, failed⟩
    obtain ⟨fault, -, same⟩ := Literal.constant_eq_error_iff.mp failed
    cases same
  have first : ∀ v, ¬ Unreadable t v (.wrongCount property operator (.atLeast least) actual) := by
    intro v failed
    exact readable [v] (leftmost_cons_iff.mpr (.inl failed))
  cases known : c.operator <;> simp [Fails, known, mismatch, readable, first]

/-- Of the values of a clause that is neither a range nor a choice, only the
first one is looked at. -/
theorem condition_congr {c' : Clause} (property : c'.property = c.property)
    (operator : c'.operator = c.operator) (first : c'.values.head? = c.values.head?)
    (noRange : c.operator ≠ .between) (noChoice : c.operator ≠ .oneOf) :
    c'.condition r = c.condition r := by
  have order (op : CompareOp) (v : String) :
      c'.orderComparison r op v = c.orderComparison r op v := by
    rw [orderComparison, orderComparison, property, operator]
  have search (op : TextOp) (v : String) : c'.search r op v = c.search r op v := by
    rw [Clause.search, Clause.search, property, operator]
  have parts (takes : c.operator.takesValues = true) :
      ∃ v rest rest', c.values = v :: rest ∧ c'.values = v :: rest' := by
    obtain ⟨v, rest, values⟩ := exists_values takes
    rw [values, List.head?_cons, List.head?_eq_some_iff] at first
    obtain ⟨rest', values'⟩ := first
    exact ⟨v, rest, rest', values, values'⟩
  cases known : c.operator
  case equals | notEquals =>
    obtain ⟨v, rest, rest', values, values'⟩ := parts (by rw [known]; rfl)
    rw [condition_of_comparison (by rw [operator, known]; rfl) values',
      condition_of_comparison (by rw [known]; rfl) values]
  case greater | greaterOrEqual | less | lessOrEqual =>
    obtain ⟨v, rest, rest', values, values'⟩ := parts (by rw [known]; rfl)
    rw [condition_of_order (by rw [operator, known]; rfl) values',
      condition_of_order (by rw [known]; rfl) values, order]
  case contains | startsWith | endsWith =>
    obtain ⟨v, rest, rest', values, values'⟩ := parts (by rw [known]; rfl)
    rw [condition_of_search (by rw [operator, known]; rfl) values',
      condition_of_search (by rw [known]; rfl) values, search]
  case between => exact absurd known noRange
  case oneOf => exact absurd known noChoice
  case isNull | isNotNull =>
    rw [condition_of_absence (by rw [operator, known]; rfl),
      condition_of_absence (by rw [known]; rfl)]

end Clause

namespace Predicate

variable {schema : Schema T} {c c' : Clause}

/-- Clauses that make the same condition make the same predicate. -/
theorem ofClause_congr (same : c'.conditionIn schema = c.conditionIn schema) :
    ofClause schema c' = ofClause schema c := by
  cases made : c.conditionIn schema with
  | error e =>
      rw [ofClause_eq_error_iff.mpr made, ofClause_eq_error_iff.mpr (same.trans made)]
  | ok result =>
      obtain ⟨p, isP, condition⟩ := exists_ofClause made
      obtain ⟨p', isP', condition'⟩ := exists_ofClause (same.trans made)
      rw [isP, isP', ext (condition'.trans condition.symm)]

theorem ofClause_eq_error_iff_fails {r : FieldRef} {e : FilterError}
    (resolved : schema.resolve c.property = .ok r) :
    ofClause schema c = .error e ↔ c.Fails r.type e := by
  rw [ofClause_eq_error_iff, Clause.conditionIn_of_resolve resolved, Clause.condition_eq_error_iff]

theorem exists_ofClause_iff_applies {r : FieldRef} (resolved : schema.resolve c.property = .ok r) :
    (∃ p, ofClause schema c = .ok p) ↔ c.Applies r.type := by
  rw [← forall_ne_error_iff, Clause.applies_iff]
  simp only [ne_eq, ofClause_eq_error_iff_fails resolved]

/-- A property that does not resolve is reported before anything else. -/
theorem ofClause_of_unresolved {e : FilterError}
    (unresolved : schema.resolve c.property = .error e) : ofClause schema c = .error e := by
  rw [ofClause_eq_error_iff, Clause.conditionIn, unresolved]
  rfl

/-- **The outcome of a clause.** A clause whose property does not resolve ends
with this error. Otherwise it makes a predicate exactly if it applies to the type
of the field that the property means, and fails for the first thing that is
wrong with it there. So on an object there are tests for null only. Values
behind the first one do not count except in ranges and choices, and that
values are missing altogether is never the error. -/
theorem ofClause_outcome (schema : Schema T) (c : Clause) :
    (∀ e, schema.resolve c.property = .error e → ofClause schema c = .error e) ∧
    (∀ r, schema.resolve c.property = .ok r →
      ((∃ p, ofClause schema c = .ok p) ↔ c.Applies r.type) ∧
      ∀ e, ofClause schema c = .error e ↔ c.Fails r.type e) ∧
    (∀ r entity, schema.resolve c.property = .ok r → r.type = .object entity →
      c.operator.takesValues = true → ∃ e, ofClause schema c = .error e) ∧
    (∀ c' : Clause, c'.property = c.property → c'.operator = c.operator →
      c'.values.head? = c.values.head? → c.operator ≠ .between → c.operator ≠ .oneOf →
      ofClause schema c' = ofClause schema c) ∧
    ∀ property operator least actual,
      ofClause schema c ≠ .error (.wrongCount property operator (.atLeast least) actual) := by
  refine ⟨?_, ?_, ?_, ?_, ?_⟩
  · intro e unresolved
    exact ofClause_of_unresolved unresolved
  · intro r resolved
    exact ⟨exists_ofClause_iff_applies resolved, fun e => ofClause_eq_error_iff_fails resolved⟩
  · intro r entity resolved object takes
    have useless : ¬ c.Applies r.type := by
      rw [object]
      exact Clause.not_applies_object entity takes
    rw [← exists_ofClause_iff_applies resolved, ← forall_ne_error_iff] at useless
    simpa using useless
  · intro c' property operator first noRange noChoice
    apply ofClause_congr
    rw [Clause.conditionIn, Clause.conditionIn, property]
    congr 1
    funext r
    exact Clause.condition_congr property operator first noRange noChoice
  · intro property operator least actual failed
    cases resolved : schema.resolve c.property with
    | error e =>
        rw [ofClause_of_unresolved resolved] at failed
        obtain rfl := Except.error.inj failed
        rcases Schema.resolve_eq_error_iff.mp resolved with ⟨unknown, -⟩ | ⟨twice, -⟩
        · cases unknown
        · cases twice
    | ok r => exact Clause.not_fails_atLeast ((ofClause_eq_error_iff_fails resolved).mp failed)

/-- The city is a member of the address and has no path of its own. Three
bounds are too many even for a type without an order, an address cannot be
compared, and what stands behind the age is not read. -/
theorem ofClause_outcome_person :
    ofClause Person.schema ⟨"city", .equals, ["x"], by decide +kernel, rfl⟩ =
      .error (.propertyNotFound "city" "Person") ∧
    ofClause Person.schema ⟨"nickname", .between, ["a", "b", "c"], by decide +kernel, rfl⟩ =
      .error (.wrongCount "nickname" .between (.exactly 2) 3) ∧
    (∃ e, ofClause Person.schema ⟨"address", .oneOf, ["x"], by decide +kernel, rfl⟩ =
      .error e) ∧
    ∃ p, ofClause Person.schema ⟨"age", .equals, ["18", "x"], by decide +kernel, rfl⟩ = .ok p := by
  have city : Person.schema.resolve "city" = .error (.propertyNotFound "city" "Person") := by
    decide +kernel
  have nickname : Person.schema.resolve "nickname" = .ok ⟨"Nickname", 1, .text, true⟩ :=
    Schema.resolve_eq_ok_iff.mpr (by decide +kernel)
  have address : Person.schema.resolve "address" = .ok ⟨"Address", 2, .object "Address", false⟩ :=
    Schema.resolve_eq_ok_iff.mpr (by decide +kernel)
  have age : Person.schema.resolve "age" = .ok ⟨"Age", 0, .int ⟨true, .w32⟩, false⟩ :=
    Schema.resolve_eq_ok_iff.mpr (by decide +kernel)
  have readable : Clause.Readable (.int ⟨true, .w32⟩) "18" :=
    exists_ok_of_isOk (by decide +kernel)
  refine ⟨?_, ?_, ?_, ?_⟩
  · have outcome := ofClause_outcome Person.schema ⟨"city", .equals, ["x"], by decide +kernel, rfl⟩
    exact outcome.1 _ city
  · have outcome := ofClause_outcome Person.schema
      ⟨"nickname", .between, ["a", "b", "c"], by decide +kernel, rfl⟩
    exact ((outcome.2.1 _ nickname).2 _).mpr (.inl ⟨by simp, rfl⟩)
  · have outcome := ofClause_outcome Person.schema
      ⟨"address", .oneOf, ["x"], by decide +kernel, rfl⟩
    exact outcome.2.2.1 _ "Address" address rfl rfl
  · have outcome := ofClause_outcome Person.schema
      ⟨"age", .equals, ["18"], by decide +kernel, rfl⟩
    obtain ⟨p, made⟩ := (outcome.2.1 _ age).1.mpr ⟨"18", [], rfl, readable⟩
    have more := outcome.2.2.2.1 ⟨"age", .equals, ["18", "x"], by decide +kernel, rfl⟩
      rfl rfl rfl (by simp) (by simp)
    exact ⟨p, more.trans made⟩

end Predicate

end RecordFilter
