import Mathlib.Algebra.Order.Ring.Nat
import RecordFilter.Clause.Condition
import RecordFilter.Proofs.Composition

/-!
# The algebra of predicates

Conjunction and disjunction of predicates are associative. What is always true
is neutral in a conjunction and takes over a disjunction. Both are flattened on
either side, which changes neither the tests, nor their order, nor the outcome.
-/

namespace RecordFilter

variable {T : Type}

namespace Condition

/-! ## Leaves -/

theorem leafCounts_eq_sum (terms : List Condition) :
    leafCounts terms = (terms.map leafCount).sum := by
  induction terms with
  | nil => rfl
  | cons c rest ih => rw [leafCounts, ih, List.map_cons, List.sum_cons]

theorem allReferences_eq_flatMap (terms : List Condition) :
    allReferences terms = terms.flatMap references := by
  induction terms with
  | nil => rfl
  | cons c rest ih => rw [allReferences, ih, List.flatMap_cons]

mutual

/-- Every test has one reference, and nothing else has any. -/
theorem leafCount_eq_length : ∀ c : Condition, c.leafCount = c.references.length
  | .always => rfl
  | .compare .. => rfl
  | .text .. => rfl
  | .null .. => rfl
  | .all terms => leafCounts_eq_length terms
  | .any terms => leafCounts_eq_length terms

theorem leafCounts_eq_length : ∀ terms : List Condition,
    leafCounts terms = (allReferences terms).length
  | [] => rfl
  | c :: rest => by
      rw [leafCounts, allReferences, List.length_append, leafCount_eq_length c,
        leafCounts_eq_length rest]

end

theorem leafCount_and (a b : Condition) : (a.and b).leafCount = a.leafCount + b.leafCount := by
  simp only [leafCount_eq_length, references_and, List.length_append]

theorem leafCount_or (a b : Condition) : (a.or b).leafCount = a.leafCount + b.leafCount := by
  simp only [leafCount_eq_length, references_or, List.length_append]

theorem leafCount_anyOf (terms : List Condition) :
    (anyOf terms).leafCount = (terms.map leafCount).sum := by
  rw [leafCount_eq_length, Clause.references_anyOf, ← leafCounts_eq_length, leafCounts_eq_sum]

/-! ## Disjunction -/

theorem disjuncts_or (a b : Condition) : (a.or b).disjuncts = a.disjuncts ++ b.disjuncts :=
  rfl

/-- Disjunctions are flattened, so it does not matter which one is made first. -/
theorem or_assoc (a b c : Condition) : (a.or b).or c = a.or (b.or c) := by
  show any ((a.or b).disjuncts ++ c.disjuncts) = any (a.disjuncts ++ (b.or c).disjuncts)
  rw [disjuncts_or, disjuncts_or, List.append_assoc]

/-- Disjunction in which a side that is always true leaves nothing of the other
one. -/
def join (a b : Condition) : Condition :=
  if a.isAlways || b.isAlways then .always else a.or b

theorem always_join (a : Condition) : join .always a = .always :=
  rfl

theorem join_always (a : Condition) : a.join .always = .always := by
  cases a <;> rfl

theorem join_eq_or {a b : Condition} (left : a.isAlways = false) (right : b.isAlways = false) :
    a.join b = a.or b := by
  rw [join, left, right]
  rfl

/-- What is always true takes over from any place. -/
theorem join_assoc (a b c : Condition) : (a.join b).join c = a.join (b.join c) := by
  -- among conditions that are not always true `join` is `or`
  cases left : a.isAlways with
  | true => rw [isAlways_iff.mp left, always_join, always_join, always_join]
  | false =>
      cases middle : b.isAlways with
      | true => rw [isAlways_iff.mp middle, join_always, always_join, join_always]
      | false =>
          cases right : c.isAlways with
          | true => rw [isAlways_iff.mp right, join_always, join_always, join_always]
          | false =>
              rw [join_eq_or left middle, join_eq_or middle right, join_eq_or rfl right,
                join_eq_or left rfl, or_assoc]

theorem holds_join (schema : Schema T) (record : T) (a b : Condition) :
    (a.join b).holds schema record = (a.holds schema record || b.holds schema record) := by
  unfold join
  split
  · rename_i side
    rcases Bool.or_eq_true_iff.mp side with left | right
    · rw [isAlways_iff.mp left]
      simp [holds]
    · rw [isAlways_iff.mp right]
      simp [holds]
  · exact holds_or schema record a b

/-! ## What is always true -/

theorem isAlways_meet (a b : Condition) : (a.meet b).isAlways = (a.isAlways && b.isAlways) := by
  cases left : a.isAlways with
  | true => rw [isAlways_iff.mp left, always_meet, Bool.true_and]
  | false =>
      cases right : b.isAlways with
      | true => rw [isAlways_iff.mp right, meet_always, left, Bool.false_and]
      | false => rw [meet_eq_and left right, Bool.false_and]; rfl

theorem isAlways_join (a b : Condition) : (a.join b).isAlways = (a.isAlways || b.isAlways) := by
  cases left : a.isAlways with
  | true => rw [isAlways_iff.mp left, always_join]; rfl
  | false =>
      cases right : b.isAlways with
      | true => rw [isAlways_iff.mp right, join_always]; rfl
      | false => rw [join_eq_or left right]; rfl

end Condition

namespace Predicate

variable {schema : Schema T}

/-- On the side of conditions, the disjunction of predicates is taken over by
what is always true. -/
theorem condition_or (p q : Predicate schema) :
    (p.or q).condition = p.condition.join q.condition := by
  unfold or Condition.join isAlways
  split <;> rfl

/-- **The algebra of predicates.** A conjunction is true where both sides are,
a disjunction where one of them is. Both are associative, tree by tree; the
predicate that is always true is the identity of the first and absorbs the
second, and nothing else comes out as that predicate. Of conditions, in scope or
not, the same truths hold for conjunctions, disjunctions and disjunctions of
lists, which count the tests of their parts and refer to what these refer to, in
order; and there are as many tests in a tree as references. -/
theorem composition_laws (schema : Schema T) :
    (∀ p q : Predicate schema,
      (∀ record, (p.and q).holds record = (p.holds record && q.holds record)) ∧
      (∀ record, (p.or q).holds record = (p.holds record || q.holds record)) ∧
      (p.and q).isAlways = (p.isAlways && q.isAlways) ∧
      (p.or q).isAlways = (p.isAlways || q.isAlways)) ∧
    (∀ p q r : Predicate schema,
      (p.and q).and r = p.and (q.and r) ∧ (p.or q).or r = p.or (q.or r)) ∧
    (∀ p : Predicate schema,
      always.and p = p ∧ p.and always = p ∧ always.or p = always ∧ p.or always = always) ∧
    (∀ a b : Condition,
      (∀ record, (a.and b).holds schema record =
        (a.holds schema record && b.holds schema record)) ∧
      (∀ record, (a.or b).holds schema record =
        (a.holds schema record || b.holds schema record)) ∧
      (a.and b).leafCount = a.leafCount + b.leafCount ∧
      (a.or b).leafCount = a.leafCount + b.leafCount ∧
      (a.and b).references = a.references ++ b.references ∧
      (a.or b).references = a.references ++ b.references) ∧
    (∀ terms : List Condition,
      (∀ record, (Condition.anyOf terms).holds schema record =
        terms.any (Condition.holds schema record)) ∧
      (Condition.anyOf terms).leafCount = (terms.map Condition.leafCount).sum ∧
      (Condition.anyOf terms).references = terms.flatMap Condition.references) ∧
    ∀ c : Condition, c.leafCount = c.references.length := by
  refine ⟨?_, ?_, ?_, ?_, ?_, Condition.leafCount_eq_length⟩
  · intro p q
    refine ⟨p.holds_and q, ?_, ?_, ?_⟩
    · intro record
      rw [holds, condition_or, Condition.holds_join]
      rfl
    · rw [isAlways, condition_and, Condition.isAlways_meet]
      rfl
    · rw [isAlways, condition_or, Condition.isAlways_join]
      rfl
  · -- predicates are equal when their trees are
    intro p q r
    constructor
    · apply ext
      simp only [condition_and, Condition.meet_assoc]
    · apply ext
      simp only [condition_or, Condition.join_assoc]
  · intro p
    refine ⟨ext ?_, ext ?_, ext ?_, ext ?_⟩
    · exact (condition_and always p).trans (Condition.always_meet p.condition)
    · exact (condition_and p always).trans (Condition.meet_always p.condition)
    · exact (condition_or always p).trans (Condition.always_join p.condition)
    · exact (condition_or p always).trans (Condition.join_always p.condition)
  · intro a b
    exact ⟨fun record => Condition.holds_and schema record a b,
      fun record => Condition.holds_or schema record a b,
      a.leafCount_and b, a.leafCount_or b, a.references_and b, a.references_or b⟩
  · intro terms
    refine ⟨fun record => Condition.holds_anyOf schema record terms,
      Condition.leafCount_anyOf terms, ?_⟩
    rw [Clause.references_anyOf, Condition.allReferences_eq_flatMap]

end Predicate

end RecordFilter
