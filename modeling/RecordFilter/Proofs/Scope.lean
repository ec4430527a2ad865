import RecordFilter.Proofs.Compilation
import RecordFilter.Proofs.Resolution

/-!
# Scope

A condition is in the scope of a schema if the path of each of its references
resolves to the position and the type that the reference holds. Whatever
predicates are made of, their conditions are in scope, and a condition can be
taken for a predicate exactly if it is. The positions are then as good as the
paths: to look every field up by its path gives the same truth value.
-/

namespace RecordFilter

open Results

variable {T : Type}

/-! ## References -/

namespace Schema

variable {s : Schema T} {r : FieldRef} {path : String}

/-- The path of the reference resolves to its position and its type. -/
def Locates (s : Schema T) (r : FieldRef) : Prop :=
  ∃ found, s.resolve r.path = .ok found ∧ found.index = r.index ∧ found.type = r.type

theorem owns_iff : s.owns r = true ↔ s.Locates r := by
  unfold owns Locates
  cases s.resolve r.path with
  | error e => simp
  | ok found => simp

instance : Decidable (s.Locates r) :=
  decidable_of_iff _ owns_iff

/-- A field that is found by some path is found by its own. -/
theorem locates_of_resolve (resolved : s.resolve path = .ok r) : s.Locates r :=
  ⟨r, resolve_path resolved, rfl, rfl⟩

/-- The error for a reference that is out of scope. It does not say whether the
path is unknown or ambiguous, or means another field. -/
def Misses (s : Schema T) (r : FieldRef) (e : FilterError) : Prop :=
  ¬ s.Locates r ∧ e = .propertyNotFound r.path s.entity

theorem forall_not_misses_iff : (∀ e, ¬ s.Misses r e) ↔ s.Locates r := by
  constructor
  · intro none
    by_contra missed
    exact none _ ⟨missed, rfl⟩
  · intro located e missed
    exact missed.1 located

/-- The one field that a path means. -/
def fieldOf (s : Schema T) (path : String) : Except FilterError (Field T) := do
  let r ← s.resolve path
  match s.fieldAt? r.index with
  | some f => return f
  | none => throw (.propertyNotFound path s.entity)

/-- A path that resolves leads to the field at the position. -/
theorem exists_fieldOf (located : s.Locates r) :
    ∃ f, s.fieldOf r.path = .ok f ∧ s.fieldAt? r.index = some f := by
  obtain ⟨found, resolved, index, -⟩ := located
  obtain ⟨i, f, ⟨⟨placed, -⟩, -⟩, rfl⟩ := resolve_eq_ok_iff_means.mp resolved
  obtain rfl : i = r.index := index
  refine ⟨f, ?_, placed⟩
  show (s.resolve r.path).bind _ = _
  rw [resolved]
  show (match s.fieldAt? r.index with
    | some f => Except.ok f
    | none => .error (FilterError.propertyNotFound r.path s.entity)) = _
  rw [placed]

end Schema

/-! ## Conditions in scope -/

namespace Condition

variable {schema : Schema T} {a b c : Condition}

/-- All references of the condition are in scope. -/
def InScope (schema : Schema T) (c : Condition) : Prop :=
  ∀ r ∈ c.references, schema.Locates r

theorem inScope_always : (always : Condition).InScope schema := by
  intro r member
  cases member

theorem InScope.meet (left : a.InScope schema) (right : b.InScope schema) :
    (a.meet b).InScope schema := by
  intro r member
  rw [references_meet, List.mem_append] at member
  exact member.elim (left r) (right r)

theorem InScope.and (left : a.InScope schema) (right : b.InScope schema) :
    (a.and b).InScope schema := by
  intro r member
  rw [references_and, List.mem_append] at member
  exact member.elim (left r) (right r)

theorem InScope.or (left : a.InScope schema) (right : b.InScope schema) :
    (a.or b).InScope schema := by
  intro r member
  rw [references_or, List.mem_append] at member
  exact member.elim (left r) (right r)

theorem inScope_anyOf {terms : List Condition} (each : ∀ c ∈ terms, c.InScope schema) :
    (anyOf terms).InScope schema := by
  intro r member
  rw [Clause.references_anyOf, mem_allReferences] at member
  obtain ⟨c, among, member⟩ := member
  exact each c among r member

/-- What a clause refers to has been found by the property of the clause. -/
theorem inScope_of_conditionIn {clause : Clause} (made : clause.conditionIn schema = .ok c) :
    c.InScope schema := by
  obtain ⟨found, resolved, made⟩ := bind_eq_ok_iff.mp made
  intro r member
  rw [Clause.references_condition made r member]
  exact Schema.locates_of_resolve resolved

/-! ## Look-up by path -/

mutual

/-- The truth of a condition on a record, where every test looks its field up
by path. All tests are made, also those on which the outcome does not depend
anymore, and the first path that does not resolve ends the evaluation. -/
def holdsByPath (schema : Schema T) (record : T) : Condition → Except FilterError Bool
  | .always => .ok true
  | .compare r op value => do
    let f ← schema.fieldOf r.path
    return op.holds (f.value record) value
  | .text r op pattern => do
    let f ← schema.fieldOf r.path
    return op.holdsFor (f.value record) pattern
  | .null r negated => do
    let f ← schema.fieldOf r.path
    return (f.value record).isNull != negated
  | .all terms => allHoldByPath schema record terms
  | .any terms => anyHoldsByPath schema record terms

/-- Whether every condition of the list is true, where fields are looked up by
path. -/
def allHoldByPath (schema : Schema T) (record : T) : List Condition → Except FilterError Bool
  | [] => .ok true
  | c :: rest => do
    let first ← c.holdsByPath schema record
    let others ← allHoldByPath schema record rest
    return first && others

/-- Whether some condition of the list is true, where fields are looked up by
path. -/
def anyHoldsByPath (schema : Schema T) (record : T) : List Condition → Except FilterError Bool
  | [] => .ok false
  | c :: rest => do
    let first ← c.holdsByPath schema record
    let others ← anyHoldsByPath schema record rest
    return first || others

end

section ByPath

variable (record : T)

private theorem inScope_leaf {r : FieldRef} (scope : ∀ r' ∈ [r], schema.Locates r') :
    ∃ f, schema.fieldOf r.path = .ok f ∧ schema.fieldAt? r.index = some f :=
  Schema.exists_fieldOf (scope r (List.mem_singleton.mpr rfl))

mutual

/-- In scope, no look-up fails, be it by path or by position, and both lead to
the same fields. -/
theorem holdsByPath_eq_ok : ∀ c : Condition, c.InScope schema →
    c.holdsByPath schema record = .ok (c.holds schema record)
  | .always, _ => rfl
  | .compare r op value, scope => by
      obtain ⟨f, named, placed⟩ := inScope_leaf scope
      rw [holdsByPath, holds, named, placed]
      rfl
  | .text r op pattern, scope => by
      obtain ⟨f, named, placed⟩ := inScope_leaf scope
      rw [holdsByPath, holds, named, placed]
      rfl
  | .null r negated, scope => by
      obtain ⟨f, named, placed⟩ := inScope_leaf scope
      rw [holdsByPath, holds, named, placed]
      rfl
  | .all terms, scope => allHoldByPath_eq_ok terms scope
  | .any terms, scope => anyHoldsByPath_eq_ok terms scope

theorem allHoldByPath_eq_ok : ∀ terms : List Condition,
    (∀ r ∈ allReferences terms, schema.Locates r) →
    allHoldByPath schema record terms = .ok (allHold schema record terms)
  | [], _ => rfl
  | c :: rest, scope => by
      have first := holdsByPath_eq_ok c fun r hr => scope r (List.mem_append_left _ hr)
      have others := allHoldByPath_eq_ok rest fun r hr => scope r (List.mem_append_right _ hr)
      rw [allHoldByPath, first, others]
      rfl

theorem anyHoldsByPath_eq_ok : ∀ terms : List Condition,
    (∀ r ∈ allReferences terms, schema.Locates r) →
    anyHoldsByPath schema record terms = .ok (anyHolds schema record terms)
  | [], _ => rfl
  | c :: rest, scope => by
      have first := holdsByPath_eq_ok c fun r hr => scope r (List.mem_append_left _ hr)
      have others := anyHoldsByPath_eq_ok rest fun r hr => scope r (List.mem_append_right _ hr)
      rw [anyHoldsByPath, first, others]
      rfl

end

end ByPath

end Condition

/-! ## Predicates -/

namespace Predicate

variable {schema : Schema T} {p q : Predicate schema} {c : Condition}

/-- The predicates that can be made with a schema: of nothing, of filters and
clauses, of each other, and of any condition that passes the check. -/
inductive Made : Predicate schema → Prop
  | always : Made always
  | parsed {policy : Policy} {filter : String} {p : Predicate schema} :
      policy.parse schema filter = .ok p → Made p
  | built {c : Clause} {p : Predicate schema} : ofClause schema c = .ok p → Made p
  | and {p q : Predicate schema} : Made p → Made q → Made (p.and q)
  | or {p q : Predicate schema} : Made p → Made q → Made (p.or q)
  | wrapped {c : Condition} {p : Predicate schema} : ofCondition schema c = .ok p → Made p

/-- A condition makes a predicate, which is no other than itself, exactly if it
is in scope. -/
theorem ofCondition_eq_ok_iff :
    ofCondition schema c = .ok p ↔ p.condition = c ∧ c.InScope schema := by
  unfold ofCondition
  split
  · rename_i r found
    have missed : ¬ c.InScope schema := by
      intro scope
      have unowned := List.find?_some found
      rw [Schema.owns_iff.mpr (scope r (List.mem_of_find?_eq_some found))] at unowned
      cases unowned
    simp [missed]
  · rename_i found
    have scope : c.InScope schema := by
      intro r member
      have owned := List.find?_eq_none.mp found r member
      exact Schema.owns_iff.mp (by simpa using owned)
    constructor
    · intro made
      cases made
      exact ⟨rfl, scope⟩
    · rintro ⟨same, -⟩
      exact congrArg Except.ok (ext same.symm)

/-- The trees in scope are those that make a predicate. -/
theorem exists_ofCondition_iff : (∃ p, ofCondition schema c = .ok p) ↔ c.InScope schema := by
  constructor
  · rintro ⟨p, made⟩
    exact (ofCondition_eq_ok_iff.mp made).2
  · intro scope
    exact ⟨⟨c, fun r member => Schema.owns_iff.mpr (scope r member)⟩,
      ofCondition_eq_ok_iff.mpr ⟨rfl, scope⟩⟩

/-- The error is that of the leftmost reference out of scope. -/
theorem ofCondition_eq_error_iff {e : FilterError} :
    ofCondition schema c = .error e ↔ Leftmost schema.Misses c.references e := by
  have each (r : FieldRef) : (!schema.owns r) = true ↔ ¬ schema.Locates r := by
    rw [← Schema.owns_iff]
    simp
  have found : ofCondition schema c = .error e ↔
      ∃ r, c.references.find? (!schema.owns ·) = some r ∧
        .propertyNotFound r.path schema.entity = e := by
    unfold ofCondition
    split <;> simp_all
  rw [found]
  constructor
  · -- what the search has passed over is in scope
    rintro ⟨r, first, rfl⟩
    obtain ⟨unowned, before, after, split, owned⟩ := List.find?_eq_some_iff_append.mp first
    refine ⟨before, r, after, split, ?_, (each r).mp unowned, rfl⟩
    intro r' member
    rw [Schema.forall_not_misses_iff, ← Schema.owns_iff]
    simpa using owned r' member
  · rintro ⟨before, r, after, split, located, missed, rfl⟩
    refine ⟨r, List.find?_eq_some_iff_append.mpr ⟨(each r).mpr missed, before, after, split, ?_⟩,
      rfl⟩
    intro r' member
    have owned := Schema.owns_iff.mpr (Schema.forall_not_misses_iff.mp (located r' member))
    simp [owned]

/-- Each operation keeps the references of its operands or brings in what has
been found in the schema. That a predicate carries a proof of its scope is not
used. -/
theorem Made.inScope (made : p.Made) : p.condition.InScope schema := by
  induction made with
  | always => exact Condition.inScope_always
  | parsed parsed =>
      -- each clause finds its own field, and joining clauses adds no reference
      exact Policy.parse_induction Condition.inScope_always
        (fun _ _ compiled => Condition.inScope_of_conditionIn compiled)
        (fun _ _ left right => left.meet right) parsed
  | built built => exact Condition.inScope_of_conditionIn (conditionIn_of_ofClause built)
  | and _ _ left right =>
      rw [condition_and]
      exact left.meet right
  | or _ _ left right =>
      intro r member
      rcases List.mem_append.mp (references_or_subset _ _ member) with member | member
      · exact left r member
      · exact right r member
  | wrapped wrapped =>
      -- nothing is known of the condition but that it has passed the check
      obtain ⟨rfl, scope⟩ := ofCondition_eq_ok_iff.mp wrapped
      exact scope

/-- **Scope.** All predicates that can be made with a schema are in its scope.
A condition passes the check, unchanged, exactly if it is in scope, as those of
these predicates are and what is composed of them; any other condition is
refused with the path of its leftmost reference out of scope. On every record,
no reference of a predicate misses its field, and to look the fields up by path
has the same outcome as to look them up by position. -/
theorem made_scope (schema : Schema T) :
    (∀ p : Predicate schema, p.Made → p.condition.InScope schema) ∧
    (∀ c p, ofCondition schema c = .ok p ↔ p.condition = c ∧ c.InScope schema) ∧
    (∀ c e, ofCondition schema c = .error e ↔ Leftmost schema.Misses c.references e) ∧
    (∀ a b : Condition, a.InScope schema → b.InScope schema →
      (a.and b).InScope schema ∧ (a.or b).InScope schema) ∧
    (∀ terms : List Condition, (∀ c ∈ terms, c.InScope schema) →
      (Condition.anyOf terms).InScope schema) ∧
    ∀ p : Predicate schema, p.Made →
      ofCondition schema p.condition = .ok p ∧
      (∀ r ∈ p.condition.references, ∃ f, schema.fieldAt? r.index = some f) ∧
      ∀ record, p.condition.holdsByPath schema record = .ok (p.holds record) := by
  refine ⟨fun p made => made.inScope, ?_, ?_, ?_, ?_, ?_⟩
  · intro c p
    exact ofCondition_eq_ok_iff
  · intro c e
    exact ofCondition_eq_error_iff
  · intro a b left right
    exact ⟨left.and right, left.or right⟩
  · intro terms each
    exact Condition.inScope_anyOf each
  · intro p made
    refine ⟨ofCondition_eq_ok_iff.mpr ⟨rfl, made.inScope⟩, ?_, ?_⟩
    · intro r member
      obtain ⟨f, -, placed⟩ := Schema.exists_fieldOf (made.inScope r member)
      exact ⟨f, placed⟩
    · intro record
      exact Condition.holdsByPath_eq_ok record p.condition made.inScope

/-- A filter on the age, joined to a test on the city by hand, makes a
predicate, although the city is spelled in another way and taken for nullable.
With a second field for the age, the same filter's tree is refused: its path is
ambiguous, which the error does not say. -/
theorem made_scope_person :
    (∃ p q : Predicate Person.schema, Policy.parse {} Person.schema "age|gt|17" = .ok p ∧
      ofCondition Person.schema
        (p.condition.or (.null ⟨" address. CITY", 3, .text, true⟩ false)) = .ok q ∧
      ∀ record, (p.and q).condition.holdsByPath Person.schema record =
        .ok ((p.and q).holds record)) ∧
    ofCondition (Person.schema.field "AGE" .text Person.city)
        (.any [.null ⟨"city", 3, .text, false⟩ true,
          .null ⟨"Age", 0, .int ⟨true, .w32⟩, false⟩ true]) =
      .error (.propertyNotFound "city" "Person") ∧
    ofCondition (Person.schema.field "AGE" .text Person.city)
        (.all [.null ⟨"Nickname", 1, .text, true⟩ true,
          .null ⟨"Age", 0, .int ⟨true, .w32⟩, false⟩ true]) =
      .error (.propertyNotFound "Age" "Person") := by
  obtain ⟨p, parsed⟩ := exists_ok_of_isOk (x := Policy.parse {} Person.schema "age|gt|17")
    (by decide +kernel)
  have made : p.Made := .parsed parsed
  have city : Person.schema.Locates ⟨" address. CITY", 3, .text, true⟩ := by decide +kernel
  obtain ⟨inScope, accepts, -, closed, -, -⟩ := made_scope Person.schema
  have joined := (closed p.condition (.null ⟨" address. CITY", 3, .text, true⟩ false)
    (inScope p made) (by simpa [Condition.InScope, Condition.references] using city)).2
  refine ⟨⟨p, ⟨_, fun r member => Schema.owns_iff.mpr (joined r member)⟩, parsed, ?_, ?_⟩, ?_, ?_⟩
  · exact (accepts _ _).mpr ⟨rfl, joined⟩
  · intro record
    have wrapped := (accepts _ ⟨_, fun r member => Schema.owns_iff.mpr (joined r member)⟩).mpr
      ⟨rfl, joined⟩
    exact ((made_scope Person.schema).2.2.2.2.2 _ (.and made (.wrapped wrapped))).2.2 record
  · -- there is no path of this spelling, the city is a member of the address
    refine ((made_scope _).2.2.1 _ _).mpr
      ⟨[], ⟨"city", 3, .text, false⟩, [⟨"Age", 0, .int ⟨true, .w32⟩, false⟩], rfl, ?_, ?_, rfl⟩
    · simp
    · decide +kernel
  · -- the nickname is in scope, so the age is the leftmost to miss
    refine ((made_scope _).2.2.1 _ _).mpr
      ⟨[⟨"Nickname", 1, .text, true⟩], ⟨"Age", 0, .int ⟨true, .w32⟩, false⟩, [], rfl, ?_, ?_, rfl⟩
    · intro r member
      obtain rfl := List.mem_singleton.mp member
      exact Schema.forall_not_misses_iff.mpr (by decide +kernel)
    · decide +kernel

end Predicate

end RecordFilter
