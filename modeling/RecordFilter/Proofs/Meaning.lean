import RecordFilter.Proofs.Compilation
import RecordFilter.Proofs.Resolution

/-!
# The meaning of filters

What a clause says about a value, in terms of the constants that its literals
stand for, and the agreement of compiled filters with it: the predicate of a
filter is true of a record exactly when each clause holds for the field that
its property means.
-/

namespace RecordFilter

open RecordFilter.Text Results

variable {T : Type}

/-! ## Values and constants -/

namespace Value

/-- There is a value, and it is equal to the constant. -/
def Equals (m constant : Value) : Prop :=
  m ≠ .null ∧ (m == constant) = true

/-- There is a value, it is ordered against the constant, and it lies on that
side of it. -/
def Stands (m : Value) (side : Ordering → Bool) (constant : Value) : Prop :=
  m ≠ .null ∧ ∃ o, m.compare? constant = some o ∧ side o = true

theorem isNull_iff {m : Value} : m.isNull = true ↔ m = .null := by
  cases m <;> simp [isNull]

theorem text?_eq_some_iff {m : Value} {s : String} : m.text? = some s ↔ m = .text s := by
  cases m <;> simp [text?]

end Value

/-- The relation that a comparison stands for. -/
def CompareOp.Relates : CompareOp → Value → Value → Prop
  | .eq, m, constant => m.Equals constant
  | .ne, m, constant => ¬ m.Equals constant
  | .gt, m, constant => m.Stands Ordering.isGT constant
  | .ge, m, constant => m.Stands Ordering.isGE constant
  | .lt, m, constant => m.Stands Ordering.isLT constant
  | .le, m, constant => m.Stands Ordering.isLE constant

theorem CompareOp.holds_iff (op : CompareOp) (m constant : Value) :
    op.holds m constant = true ↔ op.Relates m constant := by
  unfold holds
  by_cases missing : m = .null
  · -- of a missing value only "not equal" is true
    subst missing
    cases op <;> simp [Relates, Value.Equals, Value.Stands, Value.isNull]
  · have present : m.isNull = false := Bool.eq_false_iff.mpr (mt Value.isNull_iff.mp missing)
    rw [present, if_neg Bool.false_ne_true]
    cases op with
    | eq => simp [Relates, Value.Equals, missing]
    | ne => simp [Relates, Value.Equals, missing]
    | gt | ge | lt | le =>
        cases order : m.compare? constant with
        | none => simp [Relates, Value.Stands, order]
        | some o => cases o <;> simp [Relates, Value.Stands, order, missing]

/-- The relation of a pattern to a text that a search stands for. -/
def TextOp.Relates : TextOp → List Char → List Char → Prop
  | .contains, pattern, text => pattern <:+: text
  | .startsWith, pattern, text => pattern <+: text
  | .endsWith, pattern, text => pattern <:+ text

theorem TextOp.holds_iff (op : TextOp) (text pattern : List Char) :
    op.holds text pattern = true ↔ op.Relates pattern text := by
  cases op <;> simp [holds, Relates]

theorem TextOp.holdsFor_iff (op : TextOp) (m : Value) (pattern : String) :
    op.holdsFor m pattern = true ↔
      ∃ s, m = .text s ∧ op.Relates pattern.toList (lower s).toList := by
  unfold holdsFor
  cases found : m.text? with
  | none =>
      constructor
      · intro h
        cases h
      · rintro ⟨s, rfl, -⟩
        cases found
  | some s =>
      obtain rfl := Value.text?_eq_some_iff.mp found
      rw [holds_iff]
      constructor
      · intro related
        exact ⟨s, rfl, by rwa [lower, String.toList_ofList]⟩
      · rintro ⟨s', same, related⟩
        obtain rfl := Value.text.inj same
        rwa [lower, String.toList_ofList] at related

namespace Clause

/-! ## What a clause says -/

/-- The literal stands for a constant of the type, of which the relation
holds. -/
def ForConstant (t : ValueType) (literal : String) (relation : Value → Prop) : Prop :=
  ∃ constant, Literal.constant t literal = .ok constant ∧ relation constant

/-- The first value of the clause stands for such a constant. -/
def OnFirst (c : Clause) (t : ValueType) (relation : Value → Prop) : Prop :=
  ∃ literal rest, c.values = literal :: rest ∧ ForConstant t literal relation

/-- The value is a text, to which the first value of the clause stands in the
relation when both are in lower case. -/
def InText (c : Clause) (m : Value) (relation : List Char → List Char → Prop) : Prop :=
  ∃ pattern rest s, c.values = pattern :: rest ∧ m = .text s ∧
    relation (lower pattern).toList (lower s).toList

/-- What the clause says about the value of a field of the type. -/
def Holds (c : Clause) (t : ValueType) (m : Value) : Prop :=
  match c.operator with
  | .equals => c.OnFirst t m.Equals
  | .notEquals => c.OnFirst t fun constant => ¬ m.Equals constant
  | .greater => c.OnFirst t (m.Stands Ordering.isGT)
  | .greaterOrEqual => c.OnFirst t (m.Stands Ordering.isGE)
  | .less => c.OnFirst t (m.Stands Ordering.isLT)
  | .lessOrEqual => c.OnFirst t (m.Stands Ordering.isLE)
  | .contains => c.InText m fun pattern text => pattern <:+: text
  | .startsWith => c.InText m fun pattern text => pattern <+: text
  | .endsWith => c.InText m fun pattern text => pattern <:+ text
  | .between => ∃ low high, c.values = [low, high] ∧
      ForConstant t low (m.Stands Ordering.isGE) ∧ ForConstant t high (m.Stands Ordering.isLE)
  | .oneOf => ∃ literal ∈ c.values, ForConstant t literal m.Equals
  | .isNull => m = .null
  | .isNotNull => m ≠ .null

/-! ## What a clause compiles to -/

theorem forConstant_iff {t : ValueType} {literal : String} {constant : Value}
    {relation : Value → Prop} (h : Literal.constant t literal = .ok constant) :
    ForConstant t literal relation ↔ relation constant := by
  constructor
  · rintro ⟨constant', h', related⟩
    obtain rfl := Except.ok.inj (h.symm.trans h')
    exact related
  · intro related
    exact ⟨constant, h, related⟩

theorem onFirst_iff {c : Clause} {t : ValueType} {literal : String} {rest : List String}
    {relation : Value → Prop} (h : c.values = literal :: rest) :
    c.OnFirst t relation ↔ ForConstant t literal relation := by
  constructor
  · rintro ⟨literal', rest', h', related⟩
    rw [h] at h'
    obtain ⟨rfl, -⟩ := List.cons.inj h'
    exact related
  · intro related
    exact ⟨literal, rest, h, related⟩

theorem inText_iff {c : Clause} {m : Value} {pattern : String} {rest : List String}
    {relation : List Char → List Char → Prop} (h : c.values = pattern :: rest) :
    c.InText m relation ↔
      ∃ s, m = .text s ∧ relation (lower pattern).toList (lower s).toList := by
  constructor
  · rintro ⟨pattern', rest', s, h', same, related⟩
    rw [h] at h'
    obtain ⟨rfl, -⟩ := List.cons.inj h'
    exact ⟨s, same, related⟩
  · rintro ⟨s, same, related⟩
    exact ⟨pattern, rest, s, h, same, related⟩

/-- What a clause has gone through when it has become a condition, for each
kind of test. -/
theorem condition_eq_ok {c : Clause} {r : FieldRef} {result : Condition}
    (made : c.condition r = .ok result) :
    match c.operator.test with
    | .comparison op => ∃ v rest, c.values = v :: rest ∧ comparison r op v = .ok result
    | .order op => ∃ v rest, c.values = v :: rest ∧ c.orderComparison r op v = .ok result
    | .search op => ∃ v rest, c.values = v :: rest ∧ c.search r op v = .ok result
    | .range => ∃ low high lower upper, c.values = [low, high] ∧
        c.orderComparison r .ge low = .ok lower ∧ c.orderComparison r .le high = .ok upper ∧
        result = lower.and upper
    | .choice => ∃ terms, c.values.mapM (comparison r .eq) = .ok terms ∧
        result = Condition.anyOf terms
    | .absence negated => result = .null r negated := by
  unfold condition at made
  split at made
  · rename_i op v rest test values
    rw [test]
    exact ⟨v, rest, values, made⟩
  · rename_i op v rest test values
    rw [test]
    exact ⟨v, rest, values, made⟩
  · rename_i op v rest test values
    rw [test]
    exact ⟨v, rest, values, made⟩
  · rename_i low high test values
    rw [test]
    obtain ⟨lower, first, made⟩ := bind_eq_ok_iff.mp made
    obtain ⟨upper, second, made⟩ := bind_eq_ok_iff.mp made
    exact ⟨low, high, lower, upper, values, first, second, (Except.ok.inj made).symm⟩
  · rename_i v vs test values
    rw [test, values]
    obtain ⟨terms, found, made⟩ := bind_eq_ok_iff.mp made
    exact ⟨terms, found, (Except.ok.inj made).symm⟩
  · rename_i values negated test
    rw [test]
    exact (Except.ok.inj made).symm
  · cases made

/-! ## Conditions on a field -/

section Field

variable {schema : Schema T} {r : FieldRef} {f : Field T} {c : Clause} {literal : String}
  {result : Condition}

/-- The reference stands for the field. -/
theorem holds_compare (found : schema.fieldAt? r.index = some f) (op : CompareOp)
    (constant : Value) (record : T) :
    (Condition.compare r op constant).holds schema record = true ↔
      op.Relates (f.value record) constant := by
  rw [Condition.holds, found, ← CompareOp.holds_iff]

theorem holds_comparison (found : schema.fieldAt? r.index = some f) {op : CompareOp}
    (made : comparison r op literal = .ok result) (record : T) :
    result.holds schema record = true ↔
      ForConstant r.type literal (op.Relates (f.value record)) := by
  obtain ⟨constant, read, rfl⟩ := map_eq_ok_iff.mp made
  rw [holds_compare found, forConstant_iff read]

theorem comparison_of_orderComparison {op : CompareOp}
    (made : c.orderComparison r op literal = .ok result) :
    comparison r op literal = .ok result := by
  unfold orderComparison at made
  split at made
  · exact made
  · cases made

theorem holds_search (found : schema.fieldAt? r.index = some f) {op : TextOp}
    (made : c.search r op literal = .ok result) (record : T) :
    result.holds schema record = true ↔
      ∃ s, f.value record = .text s ∧ op.Relates (lower literal).toList (lower s).toList := by
  unfold search at made
  split at made
  · obtain ⟨constant, -, rfl⟩ := map_eq_ok_iff.mp made
    rw [Condition.holds, found, ← TextOp.holdsFor_iff]
  · cases made

theorem holds_null (found : schema.fieldAt? r.index = some f) (negated : Bool) (record : T) :
    (Condition.null r negated).holds schema record = true ↔
      (f.value record = .null ↔ negated = false) := by
  rw [Condition.holds, found, ← Value.isNull_iff]
  cases negated <;> simp

/-- Of the alternatives, one is true for some literal of the list. -/
theorem any_holds_comparison (found : schema.fieldAt? r.index = some f) {op : CompareOp}
    {literals : List String} {terms : List Condition}
    (made : literals.mapM (comparison r op) = .ok terms) (record : T) :
    terms.any (Condition.holds schema record) = true ↔
      ∃ literal ∈ literals, ForConstant r.type literal (op.Relates (f.value record)) := by
  rw [mapM_eq_ok_iff] at made
  induction literals generalizing terms with
  | nil =>
      cases made
      simp
  | cons literal rest ih =>
      cases made with
      | cons first others =>
          rw [List.any_cons, Bool.or_eq_true, ih others, holds_comparison found first]
          simp

/-- The condition of a clause says what the clause does. -/
theorem holds_condition_iff (found : schema.fieldAt? r.index = some f)
    (made : c.condition r = .ok result) (record : T) :
    result.holds schema record = true ↔ c.Holds r.type (f.value record) := by
  have inversion := condition_eq_ok made
  cases operator : c.operator <;> rw [operator] at inversion <;> simp only [Holds, operator]
  case equals | notEquals =>
    obtain ⟨v, rest, values, made⟩ := inversion
    rw [onFirst_iff values, holds_comparison found made]
    rfl
  case greater | greaterOrEqual | less | lessOrEqual =>
    obtain ⟨v, rest, values, made⟩ := inversion
    rw [onFirst_iff values, holds_comparison found (comparison_of_orderComparison made)]
    rfl
  case contains | startsWith | endsWith =>
    obtain ⟨v, rest, values, made⟩ := inversion
    rw [inText_iff values, holds_search found made]
    rfl
  case between =>
    obtain ⟨low, high, lower, upper, values, first, second, rfl⟩ := inversion
    rw [Condition.holds_and, Bool.and_eq_true,
      holds_comparison found (comparison_of_orderComparison first),
      holds_comparison found (comparison_of_orderComparison second)]
    constructor
    · rintro ⟨above, below⟩
      exact ⟨low, high, values, above, below⟩
    · rintro ⟨low', high', values', above, below⟩
      rw [values] at values'
      obtain ⟨rfl, rfl⟩ : low = low' ∧ high = high' := by simpa using values'
      exact ⟨above, below⟩
  case oneOf =>
    obtain ⟨terms, each, rfl⟩ := inversion
    rw [Condition.holds_anyOf, any_holds_comparison found each]
    rfl
  case isNull =>
    obtain rfl : result = .null r false := inversion
    rw [holds_null found]
    simp
  case isNotNull =>
    obtain rfl : result = .null r true := inversion
    rw [holds_null found]
    simp

/-- On a schema, the clause is about the field that its property means. -/
theorem holds_conditionIn_iff (made : c.conditionIn schema = .ok result) :
    ∃ i f, schema.Means c.property i f ∧
      ∀ record, result.holds schema record = true ↔ c.Holds f.type (f.value record) := by
  obtain ⟨r, resolved, made⟩ := bind_eq_ok_iff.mp made
  obtain ⟨i, f, means, rfl⟩ := Schema.resolve_eq_ok_iff_means.mp resolved
  exact ⟨i, f, means, holds_condition_iff means.1.1 made⟩

end Field

end Clause

/-! ## What a filter says -/

namespace Policy

variable {policy : Policy} {schema : Schema T} {filter : String}

/-- Each segment has become a condition that says what its clause does about
the field that the property means. -/
theorem conditions_mean {terms : List Condition}
    (made : policy.conditions schema filter = .ok terms) :
    List.Forall₂ (fun segment term => ∃ c i f, Clause.parse segment = .ok c ∧
        schema.Means c.property i f ∧
        ∀ record, term.holds schema record = true ↔ c.Holds f.type (f.value record))
      (Clause.segments filter) terms := by
  obtain ⟨-, cs, read, compiled⟩ := conditions_eq_ok_iff.mp made
  refine (forall₂_comp read compiled).imp ?_
  rintro segment term ⟨c, ⟨parsed, -⟩, compiled⟩
  obtain ⟨i, f, means, agree⟩ := Clause.holds_conditionIn_iff compiled
  exact ⟨c, i, f, parsed, means, agree⟩

/-- A field that a path means is the only one, so a clause says nothing else
about any other. -/
theorem holds_unique {segment : String} {c : Clause} {i : Nat} {f : Field T} {record : T}
    (parsed : Clause.parse segment = .ok c) (means : schema.Means c.property i f) :
    (∃ c' j g, Clause.parse segment = .ok c' ∧ schema.Means c'.property j g ∧
      c'.Holds g.type (g.value record)) ↔ c.Holds f.type (f.value record) := by
  constructor
  · rintro ⟨c', j, g, parsed', means', holds⟩
    obtain rfl := Except.ok.inj (parsed.symm.trans parsed')
    obtain rfl := means.2 j g means'.1
    obtain rfl := Option.some.inj (means.1.1.symm.trans means'.1.1)
    exact holds
  · intro holds
    exact ⟨c, i, f, parsed, means, holds⟩

/-- **The meaning of a filter.** Each segment of a filter that is accepted is a
clause on exactly one field, and the predicate is true of the records for which
every clause holds on the value of its field. A filter without segments is
accepted and true of every record. -/
theorem parse_meaning (policy : Policy) (schema : Schema T) (filter : String) :
    (∀ p, policy.parse schema filter = .ok p →
      (∀ segment ∈ Clause.segments filter, ∃ c i f,
        Clause.parse segment = .ok c ∧ schema.Means c.property i f) ∧
      ∀ record, p.holds record = true ↔
        ∀ segment ∈ Clause.segments filter, ∃ c i f, Clause.parse segment = .ok c ∧
          schema.Means c.property i f ∧ c.Holds f.type (f.value record)) ∧
    (Clause.segments filter = [] →
      ∃ p, policy.parse schema filter = .ok p ∧ ∀ record, p.holds record = true) := by
  refine ⟨?_, ?_⟩
  · intro p parsed
    obtain ⟨terms, made, joined⟩ := parse_eq_ok_iff.mp parsed
    have each := conditions_mean made
    refine ⟨?_, ?_⟩
    · -- a segment has become a condition, so there is a field for it
      intro segment member
      obtain ⟨term, -, c, i, f, read, means, -⟩ := exists_of_forall₂ each segment member
      exact ⟨c, i, f, read, means⟩
    · intro record
      rw [Predicate.holds, ← joined, Condition.holds_foldl_meet, Condition.holds, Bool.true_and]
      -- what is left is a test of all conditions against all segments
      refine all_iff_of_forall₂ each ?_
      rintro segment term ⟨c, i, f, read, means, agree⟩
      rw [agree, holds_unique read means]
  · intro none
    have made : policy.conditions schema filter = .ok [] := by
      refine conditions_eq_ok_iff.mpr ⟨?_, [], ?_, .nil⟩
      · intro limit _
        simp [none]
      · simp [none]
    exact ⟨.always, parse_eq_ok_iff.mpr ⟨[], made, rfl⟩, fun record => rfl⟩

/-- The meaning of a filter of three clauses, and of one that is blank. -/
theorem parse_meaning_person :
    (∃ p : Predicate Person.schema,
      Policy.parse {} Person.schema "age|between|18,30; ; address.CITY|contains|Ville" = .ok p ∧
      ∀ record, p.holds record = true ↔
        ∀ segment ∈ Clause.segments "age|between|18,30; ; address.CITY|contains|Ville",
          ∃ c i f, Clause.parse segment = .ok c ∧ Person.schema.Means c.property i f ∧
            c.Holds f.type (f.value record)) ∧
    Clause.segments " ; " = [] ∧
    ∃ p : Predicate Person.schema, Policy.parse {} Person.schema " ; " = .ok p ∧
      ∀ record, p.holds record = true := by
  have blank : Clause.segments " ; " = [] := by decide +kernel
  obtain ⟨p, parsed⟩ := exists_ok_of_isOk (x := Policy.parse {} Person.schema
    "age|between|18,30; ; address.CITY|contains|Ville") (by decide +kernel)
  have three := (parse_meaning {} Person.schema
    "age|between|18,30; ; address.CITY|contains|Ville").1 p parsed
  have none := (parse_meaning {} Person.schema " ; ").2 blank
  exact ⟨⟨p, parsed, three.2⟩, blank, none⟩

end Policy

end RecordFilter
