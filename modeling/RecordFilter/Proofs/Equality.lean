import RecordFilter.Condition.Rendering
import RecordFilter.Proofs.Algebra
import RecordFilter.Proofs.Scope
import RecordFilter.Proofs.Typing
import RecordFilter.Proofs.ValueOrder

/-!
# Equality of conditions

Constants are equal as values, so trees may be equal without being the same: the
two zeros are equal, and a number that is none is not equal to itself. Still,
nothing tells equal trees apart but their writing. They have the same tests on the
same fields, hold on the same records, and are in the scope of the same schemas.
-/

namespace RecordFilter

variable {T : Type}

/-! ## Values -/

namespace Value

variable {a b c v w : Value}

/-- Values that are equal have one place in the order, or are the same and have
none. -/
theorem cases_of_beq (same : (a == b) = true) :
    a.compare? b = some .eq ∨ (a = b ∧ (a = .null ∨ a = .object)) := by
  by_cases missing : a = .null
  · subst missing
    cases b <;> first | exact .inr ⟨rfl, .inl rfl⟩ | cases same
  · by_cases present : a = .object
    · subst present
      cases b <;> first | exact .inr ⟨rfl, .inr rfl⟩ | cases same
    · exact .inl (compare?_eq_some_eq_iff.mpr ⟨missing, present, same⟩)

/-- What is equal stands in the same order to every value. -/
theorem compare?_congr (same : (v == w) = true) : a.compare? v = a.compare? w := by
  rcases cases_of_beq same with equal | ⟨rfl, -⟩
  · exact coherent_compare?.congr_right equal
  · rfl

instance : PartialEquivBEq Value where
  symm {a b} same := by
    rcases cases_of_beq same with equal | ⟨rfl, -⟩
    · refine (compare?_eq_some_eq_iff.mp ?_).2.2
      rw [coherent_compare?.swap a b, equal]
      rfl
    · exact same
  trans {a b c} first second := by
    rcases cases_of_beq first with equal | ⟨rfl, -⟩
    · refine (compare?_eq_some_eq_iff.mp ?_).2.2
      rw [← compare?_congr second, equal]
    · exact second

/-- Every value is equal to itself but a number that is none. -/
theorem beq_self_iff : (v == v) = true ↔ v.isNaN = false := by
  cases v
  case float x =>
    show (x == x) = true ↔ x.isNaN = false
    have unordered : compareFloat? x x = none ↔ x.isNaN = true := by
      rw [compareFloat?_eq_none_iff, or_self]
    rw [← compareFloat?_eq_some_eq_iff]
    rcases coherent_compareFloat?.self x with none | equal
    · refine iff_of_false ?_ ?_
      · rw [none]
        exact nofun
      · rw [unordered.mp none]
        exact nofun
    · refine iff_of_true equal (Bool.eq_false_iff.mpr (mt unordered.mpr ?_))
      rw [equal]
      exact nofun
  all_goals simp [BEq.beq, equal, isNaN]

end Value

/-- Equal constants stand in the same relations to every value. -/
theorem CompareOp.holds_congr {op : CompareOp} {actual v w : Value} (same : (v == w) = true) :
    op.holds actual v = op.holds actual w := by
  have equal : (actual == v) = (actual == w) := BEq.congr_right same
  have order : actual.compare? v = actual.compare? w := Value.compare?_congr same
  unfold holds
  rw [equal, order]

/-! ## Trees -/

namespace Condition

mutual

/-- The trees are the same but for constants, which are equal as values. -/
inductive Same : Condition → Condition → Prop
  | always : Same .always .always
  | compare {r : FieldRef} {op : CompareOp} {v w : Value} : (v == w) = true →
      Same (.compare r op v) (.compare r op w)
  | text {r : FieldRef} {op : TextOp} {pattern : String} :
      Same (.text r op pattern) (.text r op pattern)
  | null {r : FieldRef} {negated : Bool} : Same (.null r negated) (.null r negated)
  | all {terms terms' : List Condition} : SameTerms terms terms' → Same (.all terms) (.all terms')
  | any {terms terms' : List Condition} : SameTerms terms terms' → Same (.any terms) (.any terms')

/-- The lists have the same trees in this sense, term by term. -/
inductive SameTerms : List Condition → List Condition → Prop
  | nil : SameTerms [] []
  | cons {a b : Condition} {rest rest' : List Condition} : Same a b → SameTerms rest rest' →
      SameTerms (a :: rest) (b :: rest')

end

variable {a b c : Condition} {terms terms' : List Condition}

/-! ### The executable test -/

section Inversion

variable {r : FieldRef} {op : CompareOp} {search : TextOp} {v : Value} {pattern : String}
  {negated : Bool}

theorem equal_always_iff : equal .always b = true ↔ b = .always := by
  cases b <;> simp [equal]

theorem equal_compare_iff :
    equal (.compare r op v) b = true ↔ ∃ w, b = .compare r op w ∧ (v == w) = true := by
  constructor
  · intro h
    cases b <;> simp only [equal, Bool.and_eq_true, beq_iff_eq, Bool.false_eq_true] at h
    obtain ⟨⟨rfl, rfl⟩, same⟩ := h
    exact ⟨_, rfl, same⟩
  · rintro ⟨w, rfl, same⟩
    simp [equal, same]

theorem equal_text_iff :
    equal (.text r search pattern) b = true ↔ b = .text r search pattern := by
  constructor
  · intro h
    cases b <;> simp only [equal, Bool.and_eq_true, beq_iff_eq, Bool.false_eq_true] at h
    obtain ⟨⟨rfl, rfl⟩, rfl⟩ := h
    rfl
  · rintro rfl
    simp [equal]

theorem equal_null_iff : equal (.null r negated) b = true ↔ b = .null r negated := by
  constructor
  · intro h
    cases b <;> simp only [equal, Bool.and_eq_true, beq_iff_eq, Bool.false_eq_true] at h
    obtain ⟨rfl, rfl⟩ := h
    rfl
  · rintro rfl
    simp [equal]

theorem equal_all_iff :
    equal (.all terms) b = true ↔ ∃ terms', b = .all terms' ∧ equalLists terms terms' = true := by
  cases b <;> simp [equal]

theorem equal_any_iff :
    equal (.any terms) b = true ↔ ∃ terms', b = .any terms' ∧ equalLists terms terms' = true := by
  cases b <;> simp [equal]

end Inversion

mutual

theorem same_of_equal : ∀ (a b : Condition), a.equal b = true → Same a b
  | .always, b, h => by
      obtain rfl := equal_always_iff.mp h
      exact .always
  | .compare r op v, b, h => by
      obtain ⟨w, rfl, same⟩ := equal_compare_iff.mp h
      exact .compare same
  | .text r op pattern, b, h => by
      obtain rfl := equal_text_iff.mp h
      exact .text
  | .null r negated, b, h => by
      obtain rfl := equal_null_iff.mp h
      exact .null
  | .all terms, b, h => by
      obtain ⟨terms', rfl, same⟩ := equal_all_iff.mp h
      exact .all (sameTerms_of_equalLists terms terms' same)
  | .any terms, b, h => by
      obtain ⟨terms', rfl, same⟩ := equal_any_iff.mp h
      exact .any (sameTerms_of_equalLists terms terms' same)

theorem sameTerms_of_equalLists : ∀ terms terms' : List Condition,
    equalLists terms terms' = true → SameTerms terms terms'
  | [], [], _ => .nil
  | [], _ :: _, h => by cases h
  | _ :: _, [], h => by cases h
  | a :: rest, b :: rest', h => by
      rw [equalLists, Bool.and_eq_true] at h
      exact .cons (same_of_equal a b h.1) (sameTerms_of_equalLists rest rest' h.2)

end

mutual

theorem Same.equal_eq_true : ∀ {a b : Condition}, Same a b → a.equal b = true
  | _, _, .always => rfl
  | _, _, .compare same => equal_compare_iff.mpr ⟨_, rfl, same⟩
  | _, _, .text => equal_text_iff.mpr rfl
  | _, _, .null => equal_null_iff.mpr rfl
  | _, _, .all same => equal_all_iff.mpr ⟨_, rfl, same.equalLists_eq_true⟩
  | _, _, .any same => equal_any_iff.mpr ⟨_, rfl, same.equalLists_eq_true⟩

theorem SameTerms.equalLists_eq_true : ∀ {terms terms' : List Condition},
    SameTerms terms terms' → equalLists terms terms' = true
  | _, _, .nil => rfl
  | _, _, .cons first rest => by
      rw [equalLists, first.equal_eq_true, rest.equalLists_eq_true, Bool.and_self]

end

/-- The executable test decides whether trees are the same in this sense. -/
theorem beq_iff_same : (a == b) = true ↔ Same a b :=
  ⟨same_of_equal a b, Same.equal_eq_true⟩

/-! ### Symmetry and transitivity -/

mutual

theorem Same.symm : ∀ {a b : Condition}, Same a b → Same b a
  | _, _, .always => .always
  | _, _, .compare same => .compare (BEq.symm same)
  | _, _, .text => .text
  | _, _, .null => .null
  | _, _, .all same => .all same.symm
  | _, _, .any same => .any same.symm

theorem SameTerms.symm : ∀ {terms terms' : List Condition},
    SameTerms terms terms' → SameTerms terms' terms
  | _, _, .nil => .nil
  | _, _, .cons first rest => .cons first.symm rest.symm

end

mutual

theorem Same.trans : ∀ {a b c : Condition}, Same a b → Same b c → Same a c
  | _, _, _, .always, .always => .always
  | _, _, _, .compare same, .compare same' => .compare (BEq.trans same same')
  | _, _, _, .text, .text => .text
  | _, _, _, .null, .null => .null
  | _, _, _, .all same, .all same' => .all (same.trans same')
  | _, _, _, .any same, .any same' => .any (same.trans same')

theorem SameTerms.trans : ∀ {terms terms' terms'' : List Condition},
    SameTerms terms terms' → SameTerms terms' terms'' → SameTerms terms terms''
  | _, _, _, .nil, .nil => .nil
  | _, _, _, .cons first rest, .cons first' rest' =>
      .cons (first.trans first') (rest.trans rest')

end

instance : PartialEquivBEq Condition where
  symm same := beq_iff_same.mpr (beq_iff_same.mp same).symm
  trans first second := beq_iff_same.mpr ((beq_iff_same.mp first).trans (beq_iff_same.mp second))

/-! ### Reflexivity -/

/-- No test of the tree compares with a number that is none. -/
def ComparesNumbers (c : Condition) : Prop :=
  ∀ r op v, c.HasNode (.compare r op v) → v.isNaN = false

theorem comparesNumbers_all_iff :
    ComparesNumbers (.all terms) ↔ ∀ c ∈ terms, c.ComparesNumbers := by
  constructor
  · intro numbers c among r op v node
    exact numbers r op v (.all among node)
  · intro each r op v node
    cases node with
    | all among node => exact each _ among r op v node

theorem comparesNumbers_any_iff :
    ComparesNumbers (.any terms) ↔ ∀ c ∈ terms, c.ComparesNumbers := by
  constructor
  · intro numbers c among r op v node
    exact numbers r op v (.any among node)
  · intro each r op v node
    cases node with
    | any among node => exact each _ among r op v node

mutual

/-- A tree is equal to itself if all of its constants are. -/
theorem equal_self_iff : ∀ c : Condition, c.equal c = true ↔ c.ComparesNumbers
  | .always => iff_of_true rfl (by intro r op v node; cases node)
  | .compare r op v => by
      have self : equal (.compare r op v) (.compare r op v) = (v == v) := by simp [equal]
      rw [self, Value.beq_self_iff]
      constructor
      · intro number r' op' v' node
        cases node
        exact number
      · intro numbers
        exact numbers r op v .root
  | .text r op pattern =>
      iff_of_true (equal_text_iff.mpr rfl) (by intro r' op' v' node; cases node)
  | .null r negated =>
      iff_of_true (equal_null_iff.mpr rfl) (by intro r' op' v' node; cases node)
  | .all terms => (equalLists_self_iff terms).trans comparesNumbers_all_iff.symm
  | .any terms => (equalLists_self_iff terms).trans comparesNumbers_any_iff.symm

theorem equalLists_self_iff : ∀ terms : List Condition,
    equalLists terms terms = true ↔ ∀ c ∈ terms, c.ComparesNumbers
  | [] => by simp [equalLists]
  | c :: rest => by
      rw [equalLists, Bool.and_eq_true, equal_self_iff c, equalLists_self_iff rest,
        List.forall_mem_cons]

end

/-! ### What equal trees share -/

mutual

/-- Equal trees refer to the same fields in the same order. -/
theorem Same.references_eq : ∀ {a b : Condition}, Same a b → a.references = b.references
  | _, _, .always => rfl
  | _, _, .compare _ => rfl
  | _, _, .text => rfl
  | _, _, .null => rfl
  | _, _, .all same => same.allReferences_eq
  | _, _, .any same => same.allReferences_eq

theorem SameTerms.allReferences_eq : ∀ {terms terms' : List Condition},
    SameTerms terms terms' → allReferences terms = allReferences terms'
  | _, _, .nil => rfl
  | _, _, .cons first rest => by
      rw [allReferences, allReferences, first.references_eq, rest.allReferences_eq]

end

section Holds

variable (schema : Schema T) (record : T)

mutual

/-- Equal trees hold on the same records, also where a reference finds no field
or one of another type. -/
theorem Same.holds_eq : ∀ {a b : Condition}, Same a b →
    a.holds schema record = b.holds schema record
  | _, _, .always => rfl
  | _, _, .compare (r := r) same => by
      rw [holds, holds]
      cases schema.fieldAt? r.index with
      | none => rfl
      | some f => exact CompareOp.holds_congr same
  | _, _, .text => rfl
  | _, _, .null => rfl
  | _, _, .all same => same.allHold_eq
  | _, _, .any same => same.anyHolds_eq

theorem SameTerms.allHold_eq : ∀ {terms terms' : List Condition}, SameTerms terms terms' →
    allHold schema record terms = allHold schema record terms'
  | _, _, .nil => rfl
  | _, _, .cons first rest => by
      rw [allHold, allHold, first.holds_eq, rest.allHold_eq]

theorem SameTerms.anyHolds_eq : ∀ {terms terms' : List Condition}, SameTerms terms terms' →
    anyHolds schema record terms = anyHolds schema record terms'
  | _, _, .nil => rfl
  | _, _, .cons first rest => by
      rw [anyHolds, anyHolds, first.holds_eq, rest.anyHolds_eq]

end

end Holds

/-- Zero and negative zero are one number, but they are written in two ways. -/
theorem render_zero_ne (r : FieldRef) (op : CompareOp) :
    (compare r op (.float 0)).render ≠ (compare r op (.float (-0))).render := by
  have plus : Value.render (.float 0) = "0" := by decide +kernel
  have minus : Value.render (.float (-0)) = "-0" := by decide +kernel
  intro same
  simp only [render, Value.renderAs, plus, minus, String.append_right_inj] at same
  exact absurd same (by decide)

/-- **Equality.** Equality of trees is symmetric and transitive, and a tree is equal
to itself exactly if it compares nothing with a number that is none. Equal trees
have as many tests and the same references, and with every schema they hold on the
same records, and both make a predicate or both are refused for the same reason.
They need not be the same trees: whatever is compared with a zero, the two signs
of the zero make equal conditions that are written differently. -/
theorem equal_congruence (a b c : Condition) :
    ((a == b) = true → (b == a) = true) ∧
    ((a == b) = true → (b == c) = true → (a == c) = true) ∧
    ((a == a) = true ↔ a.ComparesNumbers) ∧
    ((a == b) = true → a.leafCount = b.leafCount ∧ a.references = b.references ∧
      ∀ (T : Type) (schema : Schema T),
        (∀ record, a.holds schema record = b.holds schema record) ∧
        ((∃ p, Predicate.ofCondition schema a = .ok p) ↔
          ∃ p, Predicate.ofCondition schema b = .ok p) ∧
        ∀ e, Predicate.ofCondition schema a = .error e ↔
          Predicate.ofCondition schema b = .error e) ∧
    ∀ r op, (compare r op (.float 0) == compare r op (.float (-0))) = true ∧
      (compare r op (.float 0)).render ≠ (compare r op (.float (-0))).render := by
  refine ⟨BEq.symm, BEq.trans, equal_self_iff a, ?_, ?_⟩
  · intro equal
    have same := beq_iff_same.mp equal
    have references := same.references_eq
    refine ⟨?_, references, ?_⟩
    · rw [leafCount_eq_length, leafCount_eq_length, references]
    · intro T schema
      refine ⟨fun record => same.holds_eq schema record, ?_, ?_⟩
      · -- whether a tree is in scope is a matter of its references
        simp only [Predicate.exists_ofCondition_iff, InScope, references]
      · intro e
        rw [Predicate.ofCondition_eq_error_iff, Predicate.ofCondition_eq_error_iff, references]
  · intro r op
    have zeros : (Value.float 0 == .float (-0)) = true := by decide +kernel
    exact ⟨beq_iff_same.mpr (.compare zeros), render_zero_ne r op⟩

/-- A person of a score that is at least the number. -/
def scored (least : Float) : Condition :=
  .all [.compare ⟨"Score", 0, .float .double, false⟩ .ge (.float least),
    .any [.null ⟨"Name", 1, .text, true⟩ true]]

/-- Scores are at least zero when they are at least negative zero, and a schema in
which the name comes first refuses both. Where the score is compared with a number
that is none, the tree is not equal to itself. -/
theorem equal_congruence_scored :
    (scored 0 == scored (-0)) = true ∧ (scored (-0) == scored 0) = true ∧
    (scored 0 == scored 0) = true ∧ (scored (0 / 0) == scored (0 / 0)) = false ∧
    (∀ (T : Type) (schema : Schema T) (record : T),
      (scored 0).holds schema record = (scored (-0)).holds schema record) ∧
    Predicate.ofCondition (.empty "Person" : Schema Person) (scored (-0)) =
      .error (.propertyNotFound "Score" "Person") := by
  have equal : (scored 0 == scored (-0)) = true := by decide +kernel
  obtain ⟨symm, trans, -, same, -⟩ := equal_congruence (scored 0) (scored (-0)) (scored 0)
  obtain ⟨-, -, reflexive, -, -⟩ := equal_congruence (scored (0 / 0)) .always .always
  obtain ⟨-, -, alike⟩ := same equal
  refine ⟨equal, symm equal, trans equal (symm equal), ?_, ?_, ?_⟩
  · rw [Bool.eq_false_iff, ne_eq, reflexive]
    intro numbers
    have number := numbers _ _ _ (.all List.mem_cons_self .root)
    exact absurd number (by decide +kernel)
  · intro T schema record
    exact (alike T schema).1 record
  · refine ((alike Person (.empty "Person")).2.2 _).mp ?_
    refine Predicate.ofCondition_eq_error_iff.mpr
      ⟨[], ⟨"Score", 0, .float .double, false⟩, [⟨"Name", 1, .text, true⟩], rfl, ?_, ?_, rfl⟩
    · simp
    · decide +kernel

end Condition

end RecordFilter
