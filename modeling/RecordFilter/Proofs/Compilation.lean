import RecordFilter.Proofs.Evaluation
import RecordFilter.Proofs.Reading
import RecordFilter.Proofs.Segments

/-!
# Compilation of filters

The predicate of a filter, stage by stage: the clauses are read, each one is
turned into a condition on the schema, and the conditions are joined from the
left. The special case of a blank filter is what these stages give anyway.
-/

namespace RecordFilter

open Results

variable {T : Type}

/-- The condition of a clause on the field that its property means. -/
def Clause.conditionIn (schema : Schema T) (c : Clause) : Except FilterError Condition :=
  (schema.resolve c.property).bind c.condition

theorem Clause.conditionIn_of_resolve {schema : Schema T} {c : Clause} {r : FieldRef}
    (resolved : schema.resolve c.property = .ok r) : c.conditionIn schema = c.condition r := by
  rw [conditionIn, resolved]
  rfl

namespace Predicate

variable {schema : Schema T}

/-- The predicate of a clause is its condition. -/
theorem map_condition_ofClause (schema : Schema T) (c : Clause) :
    (ofClause schema c).map condition = c.conditionIn schema := by
  unfold ofClause Clause.conditionIn
  split
  · rename_i e unresolved
    rw [unresolved]
    rfl
  · rename_i r resolved
    have made : (schema.resolve c.property).bind c.condition = c.condition r :=
      Clause.conditionIn_of_resolve resolved
    rw [made]
    split
    · rename_i e unmade
      exact unmade.symm
    · rename_i result made
      exact made.symm

theorem ofClause_eq_error_iff {c : Clause} {e : FilterError} :
    ofClause schema c = .error e ↔ c.conditionIn schema = .error e := by
  rw [← map_condition_ofClause, map_eq_error_iff]

theorem conditionIn_of_ofClause {c : Clause} {p : Predicate schema}
    (made : ofClause schema c = .ok p) : c.conditionIn schema = .ok p.condition := by
  rw [← map_condition_ofClause, made]
  rfl

theorem exists_ofClause {c : Clause} {result : Condition}
    (made : c.conditionIn schema = .ok result) :
    ∃ p, ofClause schema c = .ok p ∧ p.condition = result :=
  map_eq_ok_iff.mp ((map_condition_ofClause schema c).trans made)

/-- Joining the predicates of clauses one by one comes to making all of their
conditions first and joining these. -/
theorem map_condition_andClauses (p : Predicate schema) (cs : List Clause) :
    (p.andClauses cs).map condition =
      (cs.mapM (Clause.conditionIn schema)).map (List.foldl Condition.meet p.condition) := by
  induction cs generalizing p with
  | nil => rfl
  | cons c rest ih =>
      show ((ofClause schema c).bind fun q => (p.and q).andClauses rest).map condition = _
      rw [mapM_cons, ← map_condition_ofClause]
      cases made : ofClause schema c with
      | error e => rfl
      | ok q =>
          show ((p.and q).andClauses rest).map condition =
            ((rest.mapM (Clause.conditionIn schema)).map (q.condition :: ·)).map
              (List.foldl Condition.meet p.condition)
          rw [ih, condition_and]
          cases rest.mapM (Clause.conditionIn schema) <;> rfl

end Predicate

namespace Policy

variable {policy : Policy} {schema : Schema T} {filter : String}

/-- The conditions of the clauses of a filter, in order. -/
def conditions (policy : Policy) (schema : Schema T) (filter : String) :
    Except FilterError (List Condition) :=
  (policy.clauses filter).bind fun cs => cs.mapM (Clause.conditionIn schema)

theorem conditions_eq_ok_iff {terms : List Condition} :
    policy.conditions schema filter = .ok terms ↔
      policy.HasRoom (Clause.segments filter).length ∧ ∃ cs,
        List.Forall₂ policy.Reads (Clause.segments filter) cs ∧
        List.Forall₂ (fun c term => c.conditionIn schema = .ok term) cs terms := by
  rw [conditions, bind_eq_ok_iff]
  constructor
  · rintro ⟨cs, read, made⟩
    obtain ⟨room, read⟩ := clauses_eq_ok_iff.mp read
    exact ⟨room, cs, read, mapM_eq_ok_iff.mp made⟩
  · rintro ⟨room, cs, read, made⟩
    exact ⟨cs, clauses_eq_ok_iff.mpr ⟨room, read⟩, mapM_eq_ok_iff.mpr made⟩

/-- A blank filter has no clauses, under any limit. -/
theorem clauses_of_isBlank (policy : Policy) (h : Text.isBlank filter = true) :
    policy.clauses filter = .ok [] := by
  unfold clauses admits
  rw [Clause.segments_eq_nil h]
  cases policy.maxClauses with
  | none => rfl
  | some limit => rfl

/-- The predicate of a filter joins the conditions of its clauses. -/
theorem map_condition_parse (policy : Policy) (schema : Schema T) (filter : String) :
    (policy.parse schema filter).map Predicate.condition =
      ((policy.conditions schema filter).map (List.foldl Condition.meet .always)).mapError
        (.inFilter filter) := by
  unfold parse conditions
  split
  · -- a blank filter has no clauses, and there is nothing to join
    rename_i blank
    rw [clauses_of_isBlank policy blank]
    rfl
  · -- the error is put into the filter last, whatever stage it comes from
    rw [map_mapError, map_bind, map_bind]
    congr 2
    funext cs
    exact Predicate.map_condition_andClauses .always cs

theorem parse_eq_ok_iff {p : Predicate schema} :
    policy.parse schema filter = .ok p ↔
      ∃ terms, policy.conditions schema filter = .ok terms ∧
        terms.foldl Condition.meet .always = p.condition := by
  have whole := map_condition_parse policy schema filter
  constructor
  · intro parsed
    rw [parsed] at whole
    exact map_eq_ok_iff.mp (mapError_eq_ok_iff.mp whole.symm)
  · rintro ⟨terms, made, joined⟩
    rw [made] at whole
    obtain ⟨q, parsed, same⟩ := map_eq_ok_iff.mp whole
    rw [parsed, Predicate.ext (same.trans joined)]

/-- What holds of the conditions of clauses, and of conjunctions of those of
which it holds, holds of every predicate that is read from a filter. -/
theorem parse_induction {good : Condition → Prop} (always : good .always)
    (clause : ∀ c k, Clause.conditionIn schema c = .ok k → good k)
    (meet : ∀ a b, good a → good b → good (a.meet b)) {p : Predicate schema}
    (parsed : policy.parse schema filter = .ok p) : good p.condition := by
  obtain ⟨terms, made, joined⟩ := parse_eq_ok_iff.mp parsed
  obtain ⟨-, cs, -, compiled⟩ := conditions_eq_ok_iff.mp made
  have each : ∀ term ∈ terms, good term := by
    intro term member
    obtain ⟨c, -, compiled⟩ := exists_of_forall₂ compiled.flip term member
    exact clause c term compiled
  rw [← joined]
  exact List.foldlRecOn terms Condition.meet always fun joint h term member =>
    meet joint term h (each term member)

theorem parse_eq_error_iff {e : FilterError} :
    policy.parse schema filter = .error e ↔
      ∃ cause, policy.conditions schema filter = .error cause ∧ cause.inFilter filter = e := by
  rw [← map_eq_error_iff (f := Predicate.condition), map_condition_parse, mapError_eq_error_iff]
  simp only [map_eq_error_iff]

end Policy

end RecordFilter
