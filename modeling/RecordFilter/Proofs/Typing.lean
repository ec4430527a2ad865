import RecordFilter.Proofs.Kinds
import RecordFilter.Proofs.LowerCase
import RecordFilter.Proofs.Meaning

/-!
# Typing

The conditions that come from clauses are typed: every test refers to a field
of the schema as it is registered, compares it with a constant of its type, for
order only if the type has one, and searches texts only, for a pattern in lower
case. On a record, such a test meets two values of one kind, so no comparison
fails for the sake of a mismatch.
-/

namespace RecordFilter

open Text Results

variable {T : Type}

/-- Whether the comparison is one for order. -/
def CompareOp.isOrder : CompareOp → Bool
  | .eq | .ne => false
  | .gt | .ge | .lt | .le => true

/-- The reference is to the field at its position, as it is registered. -/
def Schema.Refers (schema : Schema T) (r : FieldRef) (f : Field T) : Prop :=
  schema.fieldAt? r.index = some f ∧ r = refTo f r.index

namespace Condition

/-! ## Typed conditions -/

/-- The conditions whose tests suit the fields that they refer to. -/
inductive Typed (schema : Schema T) : Condition → Prop
  | always : Typed schema .always
  | compare {r : FieldRef} {f : Field T} {op : CompareOp} {constant : Value} :
      schema.Refers r f → (op.isOrder = true → f.type.isOrdered = true) →
      f.type.HasConstant constant → Typed schema (.compare r op constant)
  | text {r : FieldRef} {f : Field T} {op : TextOp} {pattern : String} :
      schema.Refers r f → f.type = .text → lower pattern = pattern →
      Typed schema (.text r op pattern)
  | null {r : FieldRef} {f : Field T} {negated : Bool} :
      schema.Refers r f → Typed schema (.null r negated)
  | all {terms : List Condition} : (∀ c ∈ terms, Typed schema c) → Typed schema (.all terms)
  | any {terms : List Condition} : (∀ c ∈ terms, Typed schema c) → Typed schema (.any terms)

/-- The nodes of a tree, which are conditions themselves. -/
inductive HasNode : Condition → Condition → Prop
  | root {c : Condition} : HasNode c c
  | all {terms : List Condition} {c node : Condition} :
      c ∈ terms → HasNode c node → HasNode (.all terms) node
  | any {terms : List Condition} {c node : Condition} :
      c ∈ terms → HasNode c node → HasNode (.any terms) node

section Typed

variable {schema : Schema T} {a b c : Condition} {terms : List Condition}

/-- The nodes of a typed condition are typed. -/
theorem Typed.of_hasNode {node : Condition} (typed : c.Typed schema) (member : c.HasNode node) :
    node.Typed schema := by
  induction member with
  | root => exact typed
  | all among _ ih =>
      cases typed with
      | all each => exact ih (each _ among)
  | any among _ ih =>
      cases typed with
      | any each => exact ih (each _ among)

theorem mem_conjuncts {term : Condition} (member : term ∈ c.conjuncts) :
    term = c ∨ ∃ terms, c = .all terms ∧ term ∈ terms := by
  cases c <;> simp_all [Condition.conjuncts]

theorem mem_disjuncts {term : Condition} (member : term ∈ c.disjuncts) :
    term = c ∨ ∃ terms, c = .any terms ∧ term ∈ terms := by
  cases c <;> simp_all [Condition.disjuncts]

theorem Typed.conjuncts (typed : c.Typed schema) : ∀ term ∈ c.conjuncts, term.Typed schema := by
  intro term member
  rcases mem_conjuncts member with rfl | ⟨terms, rfl, member⟩
  · exact typed
  · cases typed with
    | all each => exact each term member

theorem Typed.disjuncts (typed : c.Typed schema) : ∀ term ∈ c.disjuncts, term.Typed schema := by
  intro term member
  rcases mem_disjuncts member with rfl | ⟨terms, rfl, member⟩
  · exact typed
  · cases typed with
    | any each => exact each term member

theorem Typed.and (left : a.Typed schema) (right : b.Typed schema) : (a.and b).Typed schema := by
  refine .all ?_
  intro c member
  exact (List.mem_append.mp member).elim (left.conjuncts c) (right.conjuncts c)

theorem Typed.or (left : a.Typed schema) (right : b.Typed schema) : (a.or b).Typed schema := by
  refine .any ?_
  intro c member
  exact (List.mem_append.mp member).elim (left.disjuncts c) (right.disjuncts c)

theorem Typed.meet (left : a.Typed schema) (right : b.Typed schema) :
    (a.meet b).Typed schema := by
  unfold Condition.meet
  split
  · exact right
  · split
    · exact left
    · exact left.and right

theorem typed_anyOf (each : ∀ c ∈ terms, c.Typed schema) : (anyOf terms).Typed schema := by
  unfold anyOf
  split
  · exact each _ (List.mem_singleton.mpr rfl)
  · exact .any each

end Typed

end Condition

/-! ## Clauses -/

namespace Clause

section Field

variable {schema : Schema T} {r : FieldRef} {f : Field T} {c : Clause} {literal : String}
  {result : Condition}

theorem typed_comparison (refers : schema.Refers r f) {op : CompareOp}
    (ordered : op.isOrder = true → f.type.isOrdered = true)
    (made : comparison r op literal = .ok result) : result.Typed schema := by
  obtain ⟨constant, read, rfl⟩ := map_eq_ok_iff.mp made
  have type : r.type = f.type := congrArg FieldRef.type refers.2
  rw [type] at read
  exact .compare refers ordered (Literal.hasConstant_of_constant read)

theorem isOrdered_of_orderComparison {op : CompareOp}
    (made : c.orderComparison r op literal = .ok result) : r.type.isOrdered = true := by
  unfold orderComparison at made
  split at made
  · rename_i ordered
    exact ordered
  · cases made

theorem typed_orderComparison (refers : schema.Refers r f) {op : CompareOp}
    (made : c.orderComparison r op literal = .ok result) : result.Typed schema := by
  have type : r.type = f.type := congrArg FieldRef.type refers.2
  have ordered := isOrdered_of_orderComparison made
  exact typed_comparison refers (fun _ => type ▸ ordered) (comparison_of_orderComparison made)

theorem typed_search (refers : schema.Refers r f) {op : TextOp}
    (made : c.search r op literal = .ok result) : result.Typed schema := by
  have type : r.type = f.type := congrArg FieldRef.type refers.2
  unfold search at made
  split at made
  · rename_i text
    obtain ⟨constant, -, rfl⟩ := map_eq_ok_iff.mp made
    refine .text refers ?_ (lower_lower literal)
    rw [type] at text
    cases same : f.type <;> simp_all [ValueType.isText]
  · cases made

/-- Every operator makes a test that suits the field, or fails. -/
theorem typed_condition (refers : schema.Refers r f) (made : c.condition r = .ok result) :
    result.Typed schema := by
  have inversion := condition_eq_ok made
  cases operator : c.operator <;> rw [operator] at inversion
  case equals | notEquals =>
    -- values of every type can be equal
    obtain ⟨v, rest, -, made⟩ := inversion
    exact typed_comparison refers (by nofun) made
  case greater | greaterOrEqual | less | lessOrEqual =>
    obtain ⟨v, rest, -, made⟩ := inversion
    exact typed_orderComparison refers made
  case contains | startsWith | endsWith =>
    obtain ⟨v, rest, -, made⟩ := inversion
    exact typed_search refers made
  case between =>
    obtain ⟨low, high, lower, upper, -, first, second, rfl⟩ := inversion
    exact (typed_orderComparison refers first).and (typed_orderComparison refers second)
  case oneOf =>
    obtain ⟨terms, each, rfl⟩ := inversion
    refine Condition.typed_anyOf ?_
    intro term member
    obtain ⟨v, -, made⟩ := exists_of_forall₂ (mapM_eq_ok_iff.mp each).flip term member
    exact typed_comparison refers (by nofun) made
  case isNull =>
    obtain rfl : result = .null r false := inversion
    exact .null refers
  case isNotNull =>
    obtain rfl : result = .null r true := inversion
    exact .null refers

theorem typed_conditionIn (made : c.conditionIn schema = .ok result) : result.Typed schema := by
  obtain ⟨r, resolved, made⟩ := bind_eq_ok_iff.mp made
  obtain ⟨i, f, means, rfl⟩ := Schema.resolve_eq_ok_iff_means.mp resolved
  exact typed_condition ⟨means.1.1, rfl⟩ made

end Field

end Clause

/-! ## Predicates -/

namespace Predicate

variable {schema : Schema T} {p : Predicate schema}

/-- The predicates that are made of filters and clauses, by conjunction and
disjunction. -/
inductive FromClauses : Predicate schema → Prop
  | parsed {policy : Policy} {filter : String} {p : Predicate schema} :
      policy.parse schema filter = .ok p → FromClauses p
  | built {c : Clause} {p : Predicate schema} : ofClause schema c = .ok p → FromClauses p
  | and {p q : Predicate schema} : FromClauses p → FromClauses q → FromClauses (p.and q)
  | or {p q : Predicate schema} : FromClauses p → FromClauses q → FromClauses (p.or q)

theorem FromClauses.typed (made : p.FromClauses) : p.condition.Typed schema := by
  induction made with
  | parsed parsed =>
      exact Policy.parse_induction .always (fun _ _ made => Clause.typed_conditionIn made)
        (fun _ _ left right => left.meet right) parsed
  | built built => exact Clause.typed_conditionIn (conditionIn_of_ofClause built)
  | and _ _ left right =>
      rw [condition_and]
      exact left.meet right
  | or _ _ left right =>
      unfold Predicate.or
      split
      · exact .always
      · exact left.or right

end Predicate

/-- **Typing.** A field is read as a value of the kind of its type, or as none
if it is nullable, and a literal as a constant of its type. In the predicates
that are made of clauses, every comparison for order is on a type that has one,
and, where there is a value, it is of the kind of the constant, so that the two
are ordered unless one of them is a number that is none; every search is in a
text, for a pattern in lower case; and every test for null is on a field as it
is registered, so its outcome is known if the field is not nullable. -/
theorem Schema.typing (schema : Schema T) :
    (∀ f ∈ schema.fields, ∀ record,
      (f.value record = .null ∧ f.nullable = true) ∨ (f.value record).kind = f.type.kind) ∧
    (∀ type literal constant, Literal.constant type literal = .ok constant →
      type.HasConstant constant ∧ constant.kind = type.kind ∧
        constant.kind ≠ .null ∧ constant.kind ≠ .object) ∧
    ∀ p : Predicate schema, p.FromClauses →
      (∀ r op constant, p.condition.HasNode (.compare r op constant) →
        ∃ f, schema.Refers r f ∧ (op.isOrder = true → f.type.isOrdered = true) ∧
          ∀ record, f.value record ≠ .null → (f.value record).kind = constant.kind ∧
            ((f.value record).compare? constant = none ↔
              (f.value record).isNaN = true ∨ constant.isNaN = true)) ∧
      (∀ r op pattern, p.condition.HasNode (.text r op pattern) →
        ∃ f, schema.Refers r f ∧ f.type = .text ∧ lower pattern = pattern) ∧
      ∀ r negated, p.condition.HasNode (.null r negated) →
        ∃ f, schema.Refers r f ∧ (f.nullable = false →
          ∀ record, (Condition.null r negated).holds schema record = negated) := by
  refine ⟨fun f _ record => f.value_cases record, ?_, ?_⟩
  · intro type literal constant read
    have typed := Literal.hasConstant_of_constant read
    exact ⟨typed, typed.kind_eq, typed.kind_eq ▸ type.kind_ne_null, typed.kind_ne_object⟩
  · intro p made
    refine ⟨?_, ?_, ?_⟩
    · -- the value and the constant are of the kind of the same type
      intro r op constant member
      cases made.typed.of_hasNode member with
      | @compare _ f _ _ refers ordered typed =>
          refine ⟨f, refers, ordered, ?_⟩
          intro record some
          have same : (f.value record).kind = constant.kind :=
            (Field.kind_value_of_ne_null some).trans typed.kind_eq.symm
          exact ⟨same, Value.compare?_eq_none_iff same some typed.kind_ne_object⟩
    · intro r op pattern member
      cases made.typed.of_hasNode member with
      | @text _ f _ _ refers type pattern => exact ⟨f, refers, type, pattern⟩
    · -- a field that is not nullable is never read as null
      intro r negated member
      cases made.typed.of_hasNode member with
      | @null _ f _ refers =>
          refine ⟨f, refers, ?_⟩
          intro required record
          have some : (f.value record).isNull = false :=
            Bool.eq_false_iff.mpr (mt Value.isNull_iff.mp (Field.value_ne_null required record))
          rw [Condition.holds, refers.1]
          show ((f.value record).isNull != negated) = negated
          rw [some, Bool.false_bne]

/-- Persons of an age, with a nickname like Bo, or without an address. -/
def Person.nodes (age : Value) : Condition :=
  .any [.all [.compare ⟨"Age", 0, .int ⟨true, .w32⟩, false⟩ .ge age,
      .text ⟨"Nickname", 1, .text, true⟩ .contains "bo"],
    .null ⟨"Address", 2, .object "Address", false⟩ false]

/-- The condition can be made of three clauses. -/
theorem Person.exists_fromClauses :
    ∃ (p : Predicate Person.schema) (age : Value), p.FromClauses ∧
      Literal.constant (.int ⟨true, .w32⟩) "18" = .ok age ∧ p.condition = nodes age := by
  obtain ⟨age, read⟩ := exists_ok_of_isOk (x := Literal.constant (.int ⟨true, .w32⟩) "18")
    (by decide +kernel)
  obtain ⟨kept, pattern⟩ := exists_ok_of_isOk (x := Literal.constant .text "Bo")
    (by decide +kernel)
  have first : Clause.conditionIn Person.schema
      ⟨"age", .greaterOrEqual, ["18"], by decide +kernel, rfl⟩ =
      .ok (.compare ⟨"Age", 0, .int ⟨true, .w32⟩, false⟩ .ge age) := by
    rw [Clause.conditionIn_of_resolve (r := ⟨"Age", 0, .int ⟨true, .w32⟩, false⟩)
      (Schema.resolve_eq_ok_iff.mpr (by decide +kernel))]
    show (Literal.constant (.int ⟨true, .w32⟩) "18").map _ = _
    rw [read]
    rfl
  have second : Clause.conditionIn Person.schema
      ⟨"nickname", .contains, ["Bo"], by decide +kernel, rfl⟩ =
      .ok (.text ⟨"Nickname", 1, .text, true⟩ .contains "bo") := by
    have small : lower "Bo" = "bo" := by decide +kernel
    rw [Clause.conditionIn_of_resolve (r := ⟨"Nickname", 1, .text, true⟩)
      (Schema.resolve_eq_ok_iff.mpr (by decide +kernel))]
    show (Literal.constant .text "Bo").map (fun _ => Condition.text _ .contains (lower "Bo")) = _
    rw [pattern, small]
    rfl
  have third : Clause.conditionIn Person.schema
      ⟨"address", .isNull, [], by decide +kernel, rfl⟩ =
      .ok (.null ⟨"Address", 2, .object "Address", false⟩ false) :=
    Clause.conditionIn_of_resolve (r := ⟨"Address", 2, .object "Address", false⟩)
      (Schema.resolve_eq_ok_iff.mpr (by decide +kernel))
  obtain ⟨a, madeA, isA⟩ := Predicate.exists_ofClause first
  obtain ⟨b, madeB, isB⟩ := Predicate.exists_ofClause second
  obtain ⟨c, madeC, isC⟩ := Predicate.exists_ofClause third
  refine ⟨(a.and b).or c, age, .or (.and (.built madeA) (.built madeB)) (.built madeC), read, ?_⟩
  simp [Predicate.or, Predicate.and, Predicate.isAlways, isA, isB, isC, Condition.isAlways,
    Condition.and, Condition.or, Condition.conjuncts, Condition.disjuncts, nodes]

/-- Of these tests, the first compares integers, the second has its pattern in
lower case, and the third is true of nobody, since an address is always
there. -/
theorem Schema.typing_person :
    ∃ (p : Predicate Person.schema) (age : Value), p.FromClauses ∧
      p.condition = Person.nodes age ∧ age.kind = .int ∧
      (∃ f, Person.schema.Refers ⟨"Age", 0, .int ⟨true, .w32⟩, false⟩ f ∧
        f.type.isOrdered = true ∧
        ∀ record, f.value record ≠ .null → (f.value record).kind = age.kind) ∧
      lower "bo" = "bo" ∧
      ∀ record, (Condition.null ⟨"Address", 2, .object "Address", false⟩ false).holds
        Person.schema record = false := by
  obtain ⟨p, age, made, read, same⟩ := Person.exists_fromClauses
  obtain ⟨-, literals, nodes⟩ := typing Person.schema
  obtain ⟨compared, searched, tested⟩ := nodes p made
  rw [same] at compared searched tested
  obtain ⟨f, refers, ordered, alike⟩ :=
    compared _ _ age (.any List.mem_cons_self (.all List.mem_cons_self .root))
  obtain ⟨-, -, -, pattern⟩ :=
    searched _ _ "bo" (.any List.mem_cons_self (.all (.tail _ List.mem_cons_self) .root))
  obtain ⟨g, known, outcome⟩ := tested _ false (.any (.tail _ List.mem_cons_self) .root)
  have required : g.nullable = false := (congrArg FieldRef.nullable known.2).symm
  exact ⟨p, age, made, same, (literals _ _ _ read).2.1,
    ⟨f, refers, ordered rfl, fun record some => (alike record some).1⟩, pattern, outcome required⟩

end RecordFilter
