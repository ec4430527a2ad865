import RecordFilter.Predicate

/-!
# Evaluation of composed conditions

However conjunctions and disjunctions are flattened, the first hold where all
of their terms do and the second where one of them does. The truth of a
condition depends on no more of a record than the fields that it refers to.
-/

namespace RecordFilter

variable {T : Type}

namespace Condition

/-! ## Conjunction and disjunction -/

section Composition

variable (schema : Schema T) (record : T)

theorem allHold_eq_all (terms : List Condition) :
    allHold schema record terms = terms.all (holds schema record) := by
  induction terms with
  | nil => rfl
  | cons c rest ih => rw [allHold, ih, List.all_cons]

theorem anyHolds_eq_any (terms : List Condition) :
    anyHolds schema record terms = terms.any (holds schema record) := by
  induction terms with
  | nil => rfl
  | cons c rest ih => rw [anyHolds, ih, List.any_cons]

theorem allHold_conjuncts (c : Condition) :
    allHold schema record c.conjuncts = c.holds schema record := by
  cases c <;> simp [conjuncts, holds, allHold]

theorem anyHolds_disjuncts (c : Condition) :
    anyHolds schema record c.disjuncts = c.holds schema record := by
  cases c <;> simp [disjuncts, holds, anyHolds]

/-- A conjunction is true where both of its sides are. -/
theorem holds_and (a b : Condition) :
    (a.and b).holds schema record = (a.holds schema record && b.holds schema record) := by
  rw [and, holds, allHold_eq_all, List.all_append, ← allHold_eq_all, ← allHold_eq_all,
    allHold_conjuncts, allHold_conjuncts]

/-- A disjunction is true where one of its sides is. -/
theorem holds_or (a b : Condition) :
    (a.or b).holds schema record = (a.holds schema record || b.holds schema record) := by
  rw [or, holds, anyHolds_eq_any, List.any_append, ← anyHolds_eq_any, ← anyHolds_eq_any,
    anyHolds_disjuncts, anyHolds_disjuncts]

/-- The disjunction of a list is true where one of its members is. -/
theorem holds_anyOf (terms : List Condition) :
    (anyOf terms).holds schema record = terms.any (holds schema record) := by
  unfold anyOf
  split
  · simp
  · rw [holds, anyHolds_eq_any]

end Composition

/-! ## The conjunction of clauses -/

theorem isAlways_iff {c : Condition} : c.isAlways = true ↔ c = .always := by
  cases c <;> simp [isAlways]

/-- Conjunction in which a side that is always true leaves the other one as it
is. -/
def meet (a b : Condition) : Condition :=
  if a.isAlways then b else if b.isAlways then a else a.and b

theorem holds_meet (schema : Schema T) (record : T) (a b : Condition) :
    (a.meet b).holds schema record = (a.holds schema record && b.holds schema record) := by
  unfold meet
  by_cases left : a.isAlways = true
  · rw [if_pos left, isAlways_iff.mp left]
    simp [holds]
  · rw [if_neg left]
    by_cases right : b.isAlways = true
    · rw [if_pos right, isAlways_iff.mp right]
      simp [holds]
    · rw [if_neg right, holds_and]

theorem references_meet (a b : Condition) :
    (a.meet b).references = a.references ++ b.references := by
  unfold meet
  by_cases left : a.isAlways = true
  · rw [if_pos left, isAlways_iff.mp left]
    simp [references]
  · rw [if_neg left]
    by_cases right : b.isAlways = true
    · rw [if_pos right, isAlways_iff.mp right]
      simp [references]
    · rw [if_neg right, references_and]

/-- One more conjunct at a time, all of them and the start have to be true. -/
theorem holds_foldl_meet (schema : Schema T) (record : T) (start : Condition)
    (terms : List Condition) :
    (terms.foldl meet start).holds schema record =
      (start.holds schema record && terms.all (holds schema record)) := by
  induction terms generalizing start with
  | nil => simp
  | cons c rest ih => rw [List.foldl_cons, ih, holds_meet, List.all_cons, Bool.and_assoc]

theorem references_foldl_meet (start : Condition) (terms : List Condition) :
    (terms.foldl meet start).references = start.references ++ allReferences terms := by
  induction terms generalizing start with
  | nil => simp [allReferences]
  | cons c rest ih =>
      rw [List.foldl_cons, ih, references_meet, allReferences, List.append_assoc]

theorem mem_allReferences {r : FieldRef} {terms : List Condition} :
    r ∈ allReferences terms ↔ ∃ c ∈ terms, r ∈ c.references := by
  induction terms with
  | nil => simp [allReferences]
  | cons c rest ih => simp [allReferences, ih]

/-! ## What a condition depends on -/

/-- Two records hold the same values in the fields that are referred to. -/
def Agree (schema : Schema T) (refs : List FieldRef) (a b : T) : Prop :=
  ∀ r ∈ refs, ∀ f, schema.fieldAt? r.index = some f → f.value a = f.value b

section Dependence

variable {schema : Schema T} {a b : T}

/-- A test on a field that is read alike has the same outcome. -/
private theorem leaf_congr {r : FieldRef} (agree : Agree schema [r] a b) (test : Value → Bool) :
    (match schema.fieldAt? r.index with
      | some f => test (f.value a)
      | none => false) =
    (match schema.fieldAt? r.index with
      | some f => test (f.value b)
      | none => false) := by
  cases found : schema.fieldAt? r.index with
  | none => rfl
  | some f => exact congrArg test (agree r (List.mem_singleton.mpr rfl) f found)

mutual

/-- Records that agree on the references of a condition are not told apart by
it. -/
theorem holds_congr : ∀ c : Condition, Agree schema c.references a b →
    c.holds schema a = c.holds schema b
  | .always, _ => rfl
  | .compare _ op value, agree => leaf_congr agree (op.holds · value)
  | .text _ op pattern, agree => leaf_congr agree (op.holdsFor · pattern)
  | .null _ negated, agree => leaf_congr agree (·.isNull != negated)
  | .all terms, agree => allHold_congr terms agree
  | .any terms, agree => anyHolds_congr terms agree

theorem allHold_congr : ∀ terms : List Condition, Agree schema (allReferences terms) a b →
    allHold schema a terms = allHold schema b terms
  | [], _ => rfl
  | c :: rest, agree => by
      have first := holds_congr c fun r hr => agree r (List.mem_append_left _ hr)
      have others := allHold_congr rest fun r hr => agree r (List.mem_append_right _ hr)
      rw [allHold, allHold, first, others]

theorem anyHolds_congr : ∀ terms : List Condition, Agree schema (allReferences terms) a b →
    anyHolds schema a terms = anyHolds schema b terms
  | [], _ => rfl
  | c :: rest, agree => by
      have first := holds_congr c fun r hr => agree r (List.mem_append_left _ hr)
      have others := anyHolds_congr rest fun r hr => agree r (List.mem_append_right _ hr)
      rw [anyHolds, anyHolds, first, others]

end

end Dependence

end Condition

namespace Predicate

variable {schema : Schema T}

theorem ext {p q : Predicate schema} (h : p.condition = q.condition) : p = q := by
  cases p
  cases q
  cases h
  rfl

/-- On the side of conditions, the conjunction of predicates absorbs what is
always true. -/
theorem condition_and (p q : Predicate schema) :
    (p.and q).condition = p.condition.meet q.condition := by
  unfold and Condition.meet isAlways
  split
  · rfl
  · split <;> rfl

theorem holds_and (p q : Predicate schema) (record : T) :
    (p.and q).holds record = (p.holds record && q.holds record) := by
  rw [holds, condition_and, Condition.holds_meet]
  rfl

/-- A disjunction refers to nothing that none of its sides refers to. -/
theorem references_or_subset (p q : Predicate schema) :
    (p.or q).condition.references ⊆ p.condition.references ++ q.condition.references := by
  unfold or
  split
  · exact List.nil_subset _
  · rw [Condition.references_or]
    exact List.Subset.refl _

end Predicate

end RecordFilter
