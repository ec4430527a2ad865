import RecordFilter.Proofs.FieldTest
import RecordFilter.Proofs.ValueOrder

/-!
# Laws between operators

The tests of one field have to do with each other: "not equal" is the opposite
of "equal", "at least" is "above" or "equal", and a wider range takes in all
that a narrower one does. The laws hold on every record, also where there is no
value or none that is a number.
-/

namespace RecordFilter

open Results

variable {T : Type}

/-! ## Comparisons of a value -/

namespace Value

variable {m a b constant : Value}

/-- What stands to a constant in the order is not missing. -/
theorem stands_iff {side : Ordering → Bool} :
    m.Stands side constant ↔ ∃ o, m.compare? constant = some o ∧ side o = true := by
  refine and_iff_right_of_imp ?_
  rintro ⟨o, order, -⟩ rfl
  cases order

/-- Among constants, equality is a matter of the order. -/
theorem equals_iff (plain : constant.kind ≠ .object) :
    m.Equals constant ↔ m.compare? constant = some .eq := by
  rw [Equals, compare?_eq_some_eq_iff]
  refine and_congr_right fun some => (and_iff_right_of_imp ?_).symm
  rintro equal rfl
  cases constant <;> first | exact absurd rfl plain | cases equal

theorem stands_isLE_iff : m.Stands Ordering.isLE b ↔ AtMost compare? m b :=
  stands_iff

theorem stands_isGE_iff : m.Stands Ordering.isGE a ↔ AtMost compare? a m := by
  rw [stands_iff, AtMost, coherent_compare?.swap m a]
  simp

theorem Stands.isGE_of_atMost (below : AtMost compare? a b) (above : m.Stands Ordering.isGE b) :
    m.Stands Ordering.isGE a := by
  rw [stands_isGE_iff] at above ⊢
  exact coherent_compare?.atMost_trans below above

theorem Stands.isLE_of_atMost (above : AtMost compare? a b) (below : m.Stands Ordering.isLE a) :
    m.Stands Ordering.isLE b := by
  rw [stands_isLE_iff] at below ⊢
  exact coherent_compare?.atMost_trans below above

/-- A value that is not missing is ordered against a constant of its kind
unless one of them is no number. -/
theorem isSome_compare?_iff (fits : m ≠ .null → m.kind = constant.kind)
    (plain : constant.kind ≠ .object) :
    (m.compare? constant).isSome = true ↔
      m ≠ .null ∧ m.isNaN = false ∧ constant.isNaN = false := by
  rw [Option.isSome_iff_ne_none]
  by_cases missing : m = .null
  · simp [missing, compare?]
  · rw [ne_eq, compare?_eq_none_iff (fits missing) missing plain]
    simp [missing]

end Value

namespace CompareOp

/-- The outcomes of a comparison for which the relation holds. -/
def accepts : CompareOp → Ordering → Bool
  | .eq => Ordering.isEq
  | .ne => Ordering.isNe
  | .gt => Ordering.isGT
  | .ge => Ordering.isGE
  | .lt => Ordering.isLT
  | .le => Ordering.isLE

variable {op : CompareOp} {m a b constant : Value}

theorem holds_ne (m constant : Value) : ne.holds m constant = !eq.holds m constant := by
  unfold holds
  cases m.isNull <;> rfl

/-- All relations but "not equal" to a constant are read off the outcome of one
comparison. -/
theorem holds_eq_any (other : op ≠ .ne) (plain : constant.kind ≠ .object) :
    op.holds m constant = (m.compare? constant).any op.accepts := by
  rw [Bool.eq_iff_iff, holds_iff, Option.any_eq_true]
  cases op with
  | ne => exact absurd rfl other
  | eq => simp [Relates, Value.equals_iff plain, accepts, Ordering.isEq_iff_eq_eq]
  | gt | ge | lt | le => exact Value.stands_iff

/-- A relation that takes equality in is the strict one or equality. -/
theorem holds_eq_or {weak strict : CompareOp} (notNe : weak ≠ .ne ∧ strict ≠ .ne)
    (accept : ∀ o, weak.accepts o = (strict.accepts o || eq.accepts o))
    (plain : constant.kind ≠ .object) :
    weak.holds m constant = (strict.holds m constant || eq.holds m constant) := by
  rw [holds_eq_any notNe.1 plain, holds_eq_any notNe.2 plain, holds_eq_any (by decide) plain]
  cases m.compare? constant with
  | none => rfl
  | some o => exact accept o

/-- Of below, equal and above there is one for each outcome. -/
theorem countP_holds (plain : constant.kind ≠ .object) :
    [lt, eq, gt].countP (·.holds m constant) = (m.compare? constant).isSome.toNat := by
  have each (op : CompareOp) (other : op ≠ .ne) := holds_eq_any (m := m) other plain
  simp only [List.countP_cons, List.countP_nil, each lt (by decide), each eq (by decide),
    each gt (by decide)]
  cases m.compare? constant with
  | none => rfl
  | some o => cases o <;> rfl

end CompareOp

/-- A missing value passes no test with values but "not equal". -/
theorem Clause.not_holds_null {c : Clause} {t : ValueType}
    (takes : c.operator.takesValues = true) (other : c.operator ≠ .notEquals) :
    ¬ c.Holds t .null := by
  cases operator : c.operator <;>
    simp_all [Holds, OnFirst, ForConstant, InText, Value.Equals, Value.Stands,
      Operator.takesValues]

/-! ## Tests of a field -/

/-- The literals stand for constants of the type of which the first is at most
the second. -/
def Literal.AtMost (t : ValueType) (low high : String) : Prop :=
  ∃ a b, constant t low = .ok a ∧ constant t high = .ok b ∧ RecordFilter.AtMost Value.compare? a b

theorem Literal.atMost_iff {t : ValueType} {low high : String} {a b : Value}
    (readLow : constant t low = .ok a) (readHigh : constant t high = .ok b) :
    AtMost t low high ↔ RecordFilter.AtMost Value.compare? a b := by
  constructor
  · rintro ⟨a', b', readLow', readHigh', below⟩
    obtain rfl := Except.ok.inj (readLow.symm.trans readLow')
    obtain rfl := Except.ok.inj (readHigh.symm.trans readHigh')
    exact below
  · intro below
    exact ⟨a, b, readLow, readHigh, below⟩

namespace Schema

variable {schema : Schema T} {path : String} {i : Nat} {f : Field T} {v : String}
  {p q r : Predicate schema}

/-- A test that takes equality in is the strict one or equality. -/
theorem Tests.holds_eq_or (means : schema.Means path i f) {weak strict : Operator}
    {op op' : CompareOp} (weakTest : weak.test = .order op) (strictTest : strict.test = .order op')
    (notNe : op ≠ .ne ∧ op' ≠ .ne)
    (accept : ∀ o, op.accepts o = (op'.accepts o || CompareOp.eq.accepts o))
    (madeP : schema.Tests path weak [v] p) (madeQ : schema.Tests path strict [v] q)
    (madeR : schema.Tests path .equals [v] r) (record : T) :
    p.holds record = (q.holds record || r.holds record) := by
  obtain ⟨constant, read, holds⟩ := madeP.compares means (.inr weakTest)
  rw [holds, madeQ.holds_eq means (.inr strictTest) read, madeR.holds_eq means (.inl rfl) read]
  exact CompareOp.holds_eq_or notNe accept (Literal.hasConstant_of_constant read).kind_ne_object

/-- "Below", "equal" and "above" share one comparison with the constant. -/
theorem Tests.countP_holds (means : schema.Means path i f)
    (lt : schema.Tests path .less [v] p) (eq : schema.Tests path .equals [v] q)
    (gt : schema.Tests path .greater [v] r) {constant : Value}
    (read : Literal.constant f.type v = .ok constant) (record : T) :
    [p, q, r].countP (·.holds record) = ((f.value record).compare? constant).isSome.toNat := by
  rw [← CompareOp.countP_holds (Literal.hasConstant_of_constant read).kind_ne_object]
  simp only [List.countP_cons, lt.holds_eq means (.inr rfl) read,
    eq.holds_eq means (.inl rfl) read, gt.holds_eq means (.inr rfl) read]
  rfl

/-- How the tests of a field are related, on every record and for all literals
with which the tests can be made. -/
structure OperatorLaws (schema : Schema T) (path : String) (f : Field T) : Prop where
  /-- "Not equal" is the opposite of "equal". -/
  notEquals : ∀ v p q, schema.Tests path .notEquals [v] p → schema.Tests path .equals [v] q →
    ∀ record, p.holds record = !q.holds record
  /-- "Not null" is the opposite of "null". -/
  isNotNull : ∀ vs ws p q, schema.Tests path .isNotNull vs p → schema.Tests path .isNull ws q →
    ∀ record, p.holds record = !q.holds record
  /-- "At least" is "above" or "equal". -/
  greaterOrEqual : ∀ v p q r, schema.Tests path .greaterOrEqual [v] p →
    schema.Tests path .greater [v] q → schema.Tests path .equals [v] r →
    ∀ record, p.holds record = (q.holds record || r.holds record)
  /-- "At most" is "below" or "equal". -/
  lessOrEqual : ∀ v p q r, schema.Tests path .lessOrEqual [v] p →
    schema.Tests path .less [v] q → schema.Tests path .equals [v] r →
    ∀ record, p.holds record = (q.holds record || r.holds record)
  /-- Of "below", "equal" and "above" no two hold at once. -/
  exclusive : ∀ v p q r, schema.Tests path .less [v] p → schema.Tests path .equals [v] q →
    schema.Tests path .greater [v] r →
    ∀ record, [p, q, r].countP (·.holds record) ≤ 1
  /-- One of the three holds exactly if there is a value and both it and the
  constant are numbers as far as they are floating point numbers. -/
  exhaustive : ∀ v p q r constant, schema.Tests path .less [v] p →
    schema.Tests path .equals [v] q → schema.Tests path .greater [v] r →
    Literal.constant f.type v = .ok constant →
    ∀ record, [p, q, r].countP (·.holds record) = 1 ↔
      f.value record ≠ .null ∧ (f.value record).isNaN = false ∧ constant.isNaN = false
  /-- A missing value passes no test with values but "not equal". -/
  missing : ∀ operator values p, schema.Tests path operator values p →
    operator.takesValues = true → operator ≠ .notEquals →
    ∀ record, f.value record = .null → p.holds record = false
  /-- What is at least a constant is at least any lower one. -/
  lower : ∀ u v p q, Literal.AtMost f.type u v → schema.Tests path .greaterOrEqual [v] p →
    schema.Tests path .greaterOrEqual [u] q →
    ∀ record, p.holds record = true → q.holds record = true
  /-- What is at most a constant is at most any higher one. -/
  higher : ∀ u v p q, Literal.AtMost f.type u v → schema.Tests path .lessOrEqual [u] p →
    schema.Tests path .lessOrEqual [v] q →
    ∀ record, p.holds record = true → q.holds record = true
  /-- What is in a range is in any wider one. -/
  wider : ∀ u v u' v' p q, Literal.AtMost f.type u' u → Literal.AtMost f.type v v' →
    schema.Tests path .between [u, v] p → schema.Tests path .between [u', v'] q →
    ∀ record, p.holds record = true → q.holds record = true
  /-- Nothing is in a range whose bounds are the wrong way round. -/
  bounds : ∀ u v p, schema.Tests path .between [u, v] p →
    ∀ record, p.holds record = true → Literal.AtMost f.type u v

/-- **Laws between operators.** The tests of a field that a path means obey the
laws of an order with a place for missing values. -/
theorem operatorLaws (schema : Schema T) {path : String} {i : Nat} {f : Field T}
    (means : schema.Means path i f) : schema.OperatorLaws path f where
  notEquals v p q ne eq record := by
    obtain ⟨constant, read, holds⟩ := ne.compares means (.inl rfl)
    rw [holds, eq.holds_eq means (.inl rfl) read, CompareOp.holds_ne]
  isNotNull vs ws p q some none record := by
    rw [some.absence means rfl, none.absence means rfl]
    cases (f.value record).isNull <;> rfl
  greaterOrEqual v p q r :=
    Tests.holds_eq_or means rfl rfl (by decide) (by rintro (_ | _ | _) <;> rfl)
  lessOrEqual v p q r :=
    Tests.holds_eq_or means rfl rfl (by decide) (by rintro (_ | _ | _) <;> rfl)
  exclusive v p q r lt eq gt record := by
    obtain ⟨constant, read, -⟩ := lt.compares means (.inr rfl)
    rw [lt.countP_holds means eq gt read]
    exact Bool.toNat_le _
  exhaustive v p q r constant lt eq gt read record := by
    have fixed := Literal.hasConstant_of_constant read
    rw [lt.countP_holds means eq gt read, Bool.toNat_eq_one]
    refine Value.isSome_compare?_iff ?_ fixed.kind_ne_object
    intro some
    rw [fixed.kind_eq, Field.kind_value_of_ne_null some]
  missing operator values p made takes other record none := by
    obtain ⟨c, rfl, holds⟩ := made.holds_iff means
    rw [Bool.eq_false_iff, ne_eq, holds, none]
    exact Clause.not_holds_null takes other
  lower u v p q atMost above above' record := by
    obtain ⟨a, b, readU, readV, below⟩ := atMost
    rw [above.holds_eq means (.inr rfl) readV, above'.holds_eq means (.inr rfl) readU,
      CompareOp.holds_iff, CompareOp.holds_iff]
    exact Value.Stands.isGE_of_atMost below
  higher u v p q atMost below below' record := by
    obtain ⟨a, b, readU, readV, above⟩ := atMost
    rw [below.holds_eq means (.inr rfl) readU, below'.holds_eq means (.inr rfl) readV,
      CompareOp.holds_iff, CompareOp.holds_iff]
    exact Value.Stands.isLE_of_atMost above
  wider u v u' v' p q first second inside inside' record := by
    obtain ⟨a, b, readU, readV, holds⟩ := inside.ranges means
    obtain ⟨a', b', readU', readV', holds'⟩ := inside'.ranges means
    rw [Literal.atMost_iff readU' readU] at first
    rw [Literal.atMost_iff readV readV'] at second
    rw [holds, holds']
    exact And.imp (Value.Stands.isGE_of_atMost first) (Value.Stands.isLE_of_atMost second)
  bounds u v p inside record := by
    obtain ⟨a, b, readU, readV, holds⟩ := inside.ranges means
    rw [holds, Literal.atMost_iff readU readV]
    rintro ⟨above, below⟩
    exact Value.coherent_compare?.atMost_trans (Value.stands_isGE_iff.mp above)
      (Value.stands_isLE_iff.mp below)

/-- Whoever is between 18 and 30 is between 0 and 99, and to have this nickname
is the opposite of having another one or none. -/
theorem operatorLaws_person :
    (∃ p q, Person.schema.Tests "age" .between ["18", "30"] p ∧
      Person.schema.Tests "age" .between ["0", "99"] q ∧
      ∀ record, p.holds record = true → q.holds record = true) ∧
    ∃ p q, Person.schema.Tests "nickname" .notEquals ["bo"] p ∧
      Person.schema.Tests "nickname" .equals ["bo"] q ∧
      ∀ record, p.holds record = !q.holds record := by
  refine ⟨?_, ?_⟩
  · have resolved : Person.schema.resolve "age" = .ok ⟨"Age", 0, .int ⟨true, .w32⟩, false⟩ :=
      resolve_eq_ok_iff.mpr (by decide +kernel)
    obtain ⟨i, f, means, known⟩ := resolve_eq_ok_iff_means.mp resolved
    have type : f.type = .int ⟨true, .w32⟩ := (congrArg FieldRef.type known).symm
    have low : Literal.AtMost f.type "0" "18" := by
      rw [type]
      exact ⟨.int 0, .int 18, rfl, rfl, .lt, rfl, rfl⟩
    have high : Literal.AtMost f.type "30" "99" := by
      rw [type]
      exact ⟨.int 30, .int 99, rfl, rfl, .lt, rfl, rfl⟩
    obtain ⟨p, narrow⟩ := exists_ok_of_isOk (x := (Clause.ofParts "age" .between
      ["18", "30"]).bind (Predicate.ofClause Person.schema)) (by decide +kernel)
    obtain ⟨q, wide⟩ := exists_ok_of_isOk (x := (Clause.ofParts "age" .between
      ["0", "99"]).bind (Predicate.ofClause Person.schema)) (by decide +kernel)
    exact ⟨p, q, narrow, wide,
      (operatorLaws Person.schema means).wider _ _ _ _ p q low high narrow wide⟩
  · have resolved : Person.schema.resolve "nickname" = .ok ⟨"Nickname", 1, .text, true⟩ :=
      resolve_eq_ok_iff.mpr (by decide +kernel)
    obtain ⟨i, f, means, -⟩ := resolve_eq_ok_iff_means.mp resolved
    obtain ⟨p, ne⟩ := exists_ok_of_isOk (x := (Clause.ofParts "nickname" .notEquals
      ["bo"]).bind (Predicate.ofClause Person.schema)) (by decide +kernel)
    obtain ⟨q, eq⟩ := exists_ok_of_isOk (x := (Clause.ofParts "nickname" .equals
      ["bo"]).bind (Predicate.ofClause Person.schema)) (by decide +kernel)
    exact ⟨p, q, ne, eq, (operatorLaws Person.schema means).notEquals "bo" p q ne eq⟩

end Schema

end RecordFilter
