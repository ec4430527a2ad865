import RecordFilter.Condition.Evaluation

/-!
# Predicates

A predicate is a condition all of whose references are in the scope of a
schema: the path of each of them means the field at its position, with its
type. Predicates come from clauses, from each other, and from conditions that
pass the check.
-/

namespace RecordFilter

variable {T : Type}

namespace Condition

theorem references_conjuncts (c : Condition) : allReferences c.conjuncts = c.references := by
  cases c <;> simp [conjuncts, references, allReferences]

theorem references_disjuncts (c : Condition) : allReferences c.disjuncts = c.references := by
  cases c <;> simp [disjuncts, references, allReferences]

theorem allReferences_append (xs ys : List Condition) :
    allReferences (xs ++ ys) = allReferences xs ++ allReferences ys := by
  induction xs with
  | nil => rfl
  | cons c rest ih => simp [allReferences, ih]

theorem references_and (a b : Condition) : (a.and b).references = a.references ++ b.references := by
  simp [and, references, allReferences_append, references_conjuncts]

theorem references_or (a b : Condition) : (a.or b).references = a.references ++ b.references := by
  simp [or, references, allReferences_append, references_disjuncts]

end Condition

/-- A condition in the scope of a schema. -/
structure Predicate (schema : Schema T) where
  condition : Condition
  inScope : ∀ r ∈ condition.references, schema.owns r

namespace Predicate

variable {schema : Schema T}

/-- The predicate that is true of every record. -/
def always : Predicate schema :=
  ⟨.always, by simp [Condition.references]⟩

/-- Whether the predicate is the one that is true of every record. -/
def isAlways (p : Predicate schema) : Bool :=
  p.condition.isAlways

/-- The predicate of a condition, or the first reference out of scope. -/
def ofCondition (schema : Schema T) (c : Condition) : Except FilterError (Predicate schema) :=
  match found : c.references.find? (!schema.owns ·) with
  | some r => .error (.propertyNotFound r.path schema.entity)
  | none => .ok ⟨c, by simpa using found⟩

/-- Conjunction; a side that is always true leaves the other one as it is. -/
def and (p q : Predicate schema) : Predicate schema :=
  if p.isAlways then q
  else if q.isAlways then p
  else ⟨p.condition.and q.condition, fun r h => by
    rw [Condition.references_and, List.mem_append] at h
    exact h.elim (p.inScope r) (q.inScope r)⟩

/-- Disjunction; it is always true if one of the sides is. -/
def or (p q : Predicate schema) : Predicate schema :=
  if p.isAlways || q.isAlways then always
  else ⟨p.condition.or q.condition, fun r h => by
    rw [Condition.references_or, List.mem_append] at h
    exact h.elim (p.inScope r) (q.inScope r)⟩

/-- The truth of the predicate on a record. -/
def holds (p : Predicate schema) (record : T) : Bool :=
  p.condition.holds schema record

/-- The records of which the predicate is true. -/
def filter (p : Predicate schema) (records : List T) : List T :=
  records.filter p.holds

end Predicate

end RecordFilter
