import RecordFilter.Proofs.Compilation
import RecordFilter.Proofs.Resolution

/-!
# The outcome of a filter

Which error a filter ends with when several things are wrong with it. First
comes the number of its segments, then the leftmost segment that is refused,
and only then the leftmost clause that cannot be compiled. All of these errors
come from the filter, but for one: that a path is ambiguous is the schema's
fault, and is reported with the whole filter.
-/

namespace RecordFilter

open Results

variable {T : Type}

/-! ## Errors of the filter -/

namespace FilterError

theorem inFilter_of_isFromFilter {e : FilterError} (h : e.isFromFilter = true) (filter : String) :
    e.inFilter filter = e := by
  cases e <;> first | rfl | cases h

theorem inFilter_ne_schema (e : FilterError) (filter : String) (fault : SchemaFault) :
    e.inFilter filter ≠ .schema fault := by
  cases e <;> simp [inFilter]

end FilterError

namespace Clause

variable {e : FilterError}

theorem isFromFilter_of_ofParts {property : String} {operator : Operator} {values : List String}
    (h : ofParts property operator values = .error e) : e.isFromFilter = true := by
  unfold ofParts at h
  split at h
  · obtain rfl := Except.error.inj h
    rfl
  · split at h
    · split at h
      · obtain rfl := Except.error.inj h
        rfl
      · cases h
    · cases h

theorem isFromFilter_of_parse {segment : String} (h : parse segment = .error e) :
    e.isFromFilter = true := by
  unfold parse at h
  split at h
  · obtain rfl := Except.error.inj h
    rfl
  · simp only at h
    split at h
    · obtain rfl := Except.error.inj h
      rfl
    · split at h
      · obtain rfl := Except.error.inj h
        rfl
      · exact isFromFilter_of_ofParts h

/-! ### On a field -/

variable {r : FieldRef} {literal : String} {op : CompareOp}

theorem isFromFilter_of_constant {t : ValueType} (h : Literal.constant t literal = .error e) :
    e.isFromFilter = true := by
  unfold Literal.constant at h
  split at h
  · cases h
  · obtain rfl := Except.error.inj h
    rfl

theorem isFromFilter_of_comparison (h : comparison r op literal = .error e) :
    e.isFromFilter = true :=
  isFromFilter_of_constant (map_eq_error_iff.mp h)

theorem isFromFilter_of_orderComparison {c : Clause}
    (h : c.orderComparison r op literal = .error e) : e.isFromFilter = true := by
  unfold orderComparison at h
  split at h
  · exact isFromFilter_of_comparison h
  · obtain rfl := Except.error.inj h
    rfl

theorem isFromFilter_of_search {c : Clause} {op : TextOp} (h : c.search r op literal = .error e) :
    e.isFromFilter = true := by
  unfold search at h
  split at h
  · exact isFromFilter_of_constant (map_eq_error_iff.mp h)
  · obtain rfl := Except.error.inj h
    rfl

/-- Once there is a field, only the clause can be wrong. -/
theorem isFromFilter_of_condition {c : Clause} (h : c.condition r = .error e) :
    e.isFromFilter = true := by
  unfold condition at h
  split at h
  · exact isFromFilter_of_comparison h
  · exact isFromFilter_of_orderComparison h
  · exact isFromFilter_of_search h
  · rcases bind_eq_error_iff.mp h with low | ⟨lower, -, h⟩
    · exact isFromFilter_of_orderComparison low
    · rcases bind_eq_error_iff.mp h with high | ⟨upper, -, h⟩
      · exact isFromFilter_of_orderComparison high
      · cases h
  · rcases bind_eq_error_iff.mp h with alternative | ⟨terms, -, h⟩
    · obtain ⟨before, v, after, -, -, failed⟩ := mapM_eq_error_iff.mp alternative
      exact isFromFilter_of_comparison failed
    · cases h
  · cases h
  · obtain rfl := Except.error.inj h
    rfl

/-- Two fields are registered by spellings of the clause's property. -/
def Ambiguous (c : Clause) (schema : Schema T) : Prop :=
  ∃ i f j g, i ≠ j ∧ schema.Spells c.property i f ∧ schema.Spells c.property j g

/-- A clause that cannot be compiled is at fault itself, or its property is
ambiguous. -/
theorem conditionIn_eq_error {c : Clause} {schema : Schema T}
    (h : c.conditionIn schema = .error e) :
    e.isFromFilter = true ∨
      e = .schema (.ambiguousPath c.property schema.entity) ∧ c.Ambiguous schema := by
  rcases bind_eq_error_iff.mp h with unresolved | ⟨r, -, failed⟩
  · rcases Schema.resolve_eq_error_iff.mp unresolved with ⟨rfl, -⟩ | ⟨rfl, twice⟩
    · exact .inl rfl
    · exact .inr ⟨rfl, twice⟩
  · exact .inl (isFromFilter_of_condition failed)

end Clause

namespace Policy

variable {policy : Policy} {schema : Schema T} {filter : String} {e : FilterError}

theorem isFromFilter_of_refuses {segment : String} (h : policy.Refuses segment e) :
    e.isFromFilter = true := by
  cases h with
  | unreadable failed => exact Clause.isFromFilter_of_parse failed
  | forbidden _ _ => rfl

theorem isFromFilter_of_clauses (h : policy.clauses filter = .error e) :
    e.isFromFilter = true := by
  rcases policy.room_or_excess (Clause.segments filter).length with room | ⟨limit, limited, excess⟩
  · obtain ⟨before, segment, after, -, -, refused⟩ := (clauses_eq_error_iff room).mp h
    exact isFromFilter_of_refuses refused
  · rw [clauses_of_excess limited excess] at h
    obtain rfl := Except.error.inj h
    rfl

/-! ## The stages -/

/-- What goes wrong with the clauses decides before the schema is asked. -/
theorem parse_of_clauses_error (schema : Schema T) (h : policy.clauses filter = .error e) :
    policy.parse schema filter = .error e := by
  refine parse_eq_error_iff.mpr ⟨e, ?_, ?_⟩
  · rw [conditions, h]
    rfl
  · exact FilterError.inFilter_of_isFromFilter (isFromFilter_of_clauses h) filter

/-- When the clauses are read, the leftmost one that cannot be compiled
decides. -/
theorem parse_eq_error_iff_leftmost {cs : List Clause} (read : policy.clauses filter = .ok cs) :
    policy.parse schema filter = .error e ↔ ∃ cause,
      Leftmost (fun c e => Predicate.ofClause schema c = .error e) cs cause ∧
      cause.inFilter filter = e := by
  have stage : policy.conditions schema filter = cs.mapM (Clause.conditionIn schema) := by
    rw [conditions, read]
    rfl
  rw [parse_eq_error_iff, stage]
  simp only [mapM_eq_error_iff, Predicate.ofClause_eq_error_iff]

/-- The special case of a blank filter is what the stages give anyway. -/
theorem parse_eq_stages (policy : Policy) (schema : Schema T) (filter : String) :
    policy.parse schema filter =
      ((policy.clauses filter).bind Predicate.always.andClauses).mapError (.inFilter filter) := by
  unfold parse
  split
  · rename_i blank
    rw [clauses_of_isBlank policy blank]
    rfl
  · rfl

/-- With room for its segments, one of which is refused, a filter ends with the
refusal of the leftmost such segment. -/
theorem exists_clauses_error (room : policy.HasRoom (Clause.segments filter).length)
    (refused : ∃ segment ∈ Clause.segments filter, ∃ e, policy.Refuses segment e) :
    ∃ e, Leftmost policy.Refuses (Clause.segments filter) e ∧ policy.clauses filter = .error e := by
  simp only [← readClause_eq_error_iff] at refused
  obtain ⟨e, failed⟩ := exists_mapM_eq_error refused
  rw [← clauses_of_room room] at failed
  exact ⟨e, (clauses_eq_error_iff room).mp failed, failed⟩

/-- With room for its segments and none of them refused, a filter has one
clause for each segment. -/
theorem exists_clauses (room : policy.HasRoom (Clause.segments filter).length)
    (fine : ∀ segment ∈ Clause.segments filter, ∀ e, ¬ policy.Refuses segment e) :
    ∃ cs, List.Forall₂ policy.Reads (Clause.segments filter) cs ∧
      policy.clauses filter = .ok cs := by
  obtain ⟨cs, read⟩ : ∃ cs, (Clause.segments filter).mapM policy.readClause = .ok cs := by
    refine exists_mapM_eq_ok ?_
    intro segment member
    obtain ⟨c, reads⟩ := reads_of_not_refused (fine segment member)
    exact ⟨c, readClause_eq_ok_iff.mpr reads⟩
  rw [← clauses_of_room room] at read
  exact ⟨cs, (clauses_eq_ok_iff.mp read).2, read⟩

/-- Clauses of which one cannot be compiled end with the error of the leftmost
such clause. -/
theorem parse_of_uncompiled {cs : List Clause} (read : policy.clauses filter = .ok cs)
    (failed : ∃ c ∈ cs, ∃ e, Predicate.ofClause schema c = .error e) :
    ∃ e, Leftmost (fun c e => Predicate.ofClause schema c = .error e) cs e ∧
      policy.parse schema filter = .error (e.inFilter filter) := by
  simp only [Predicate.ofClause_eq_error_iff] at failed
  obtain ⟨e, first⟩ := exists_mapM_eq_error failed
  simp only [mapM_eq_error_iff, ← Predicate.ofClause_eq_error_iff] at first
  exact ⟨e, first, (parse_eq_error_iff_leftmost read).mpr ⟨e, first, rfl⟩⟩

/-- Clauses that can all be compiled make a predicate. -/
theorem exists_parse {cs : List Clause} (read : policy.clauses filter = .ok cs)
    (fine : ∀ c ∈ cs, ∀ e, Predicate.ofClause schema c ≠ .error e) :
    ∃ p, policy.parse schema filter = .ok p := by
  refine forall_ne_error_iff.mp ?_
  -- an error would be that of one of the clauses
  intro e failed
  obtain ⟨cause, ⟨before, c, after, rfl, -, uncompiled⟩, -⟩ :=
    (parse_eq_error_iff_leftmost read).mp failed
  exact fine c (by simp) cause uncompiled

/-- An error that blames the schema comes with the whole filter, and the
property of one of the clauses is ambiguous. -/
theorem parse_eq_unexpected {text : String} {fault : SchemaFault}
    (h : policy.parse schema filter = .error (.unexpected text fault)) :
    text = filter ∧ ∃ segment ∈ Clause.segments filter, ∃ c, policy.Reads segment c ∧
      fault = .ambiguousPath c.property schema.entity ∧ c.Ambiguous schema := by
  cases read : policy.clauses filter with
  | error e =>
      -- before the schema is asked, nothing is blamed on it
      rw [parse_of_clauses_error schema read] at h
      obtain rfl := Except.error.inj h
      cases isFromFilter_of_clauses read
  | ok cs =>
      obtain ⟨cause, ⟨before, c, after, rfl, -, uncompiled⟩, same⟩ :=
        (parse_eq_error_iff_leftmost read).mp h
      rcases Clause.conditionIn_eq_error (Predicate.ofClause_eq_error_iff.mp uncompiled) with
        ours | ⟨rfl, twice⟩
      · rw [FilterError.inFilter_of_isFromFilter ours] at same
        rw [same] at ours
        cases ours
      · -- the clause that is to blame has a segment
        obtain ⟨rfl, rfl⟩ := FilterError.unexpected.inj same
        have partners := (clauses_eq_ok_iff.mp read).2.flip
        obtain ⟨segment, member, reads⟩ := exists_of_forall₂ partners c (by simp)
        exact ⟨rfl, segment, member, c, reads, rfl, twice⟩

/-! ## The outcome -/

/-- How the reading of a filter ends, without a schema (`clauses`) and with one
(`parse`): what decides, in the order in which it does. -/
structure Outcome (policy : Policy) (schema : Schema T) (filter : String) : Prop where
  /-- Too many segments are refused, whatever they contain. -/
  excess : ∀ limit, policy.maxClauses = some limit → limit < (Clause.segments filter).length →
    policy.clauses filter = .error (.tooManyClauses (Clause.segments filter).length limit) ∧
    policy.parse schema filter = .error (.tooManyClauses (Clause.segments filter).length limit)
  /-- Otherwise the leftmost segment that is refused decides, whatever the
  schema makes of the segments before it. -/
  refused : policy.HasRoom (Clause.segments filter).length →
    (∃ segment ∈ Clause.segments filter, ∃ e, policy.Refuses segment e) →
    ∃ e, Leftmost policy.Refuses (Clause.segments filter) e ∧
      policy.clauses filter = .error e ∧ policy.parse schema filter = .error e
  /-- Otherwise there is one clause for each segment, in order. -/
  read : policy.HasRoom (Clause.segments filter).length →
    (∀ segment ∈ Clause.segments filter, ∀ e, ¬ policy.Refuses segment e) →
    ∃ cs, List.Forall₂ policy.Reads (Clause.segments filter) cs ∧ policy.clauses filter = .ok cs
  /-- Then the leftmost clause that cannot be compiled decides, and its error is
  passed on unless the schema is to blame. -/
  uncompiled : ∀ cs, policy.clauses filter = .ok cs →
    (∃ c ∈ cs, ∃ e, Predicate.ofClause schema c = .error e) →
    ∃ e, Leftmost (fun c e => Predicate.ofClause schema c = .error e) cs e ∧
      ((∀ path entity, e ≠ .schema (.ambiguousPath path entity)) →
        policy.parse schema filter = .error e) ∧
      ∀ path entity, e = .schema (.ambiguousPath path entity) →
        policy.parse schema filter = .error (.unexpected filter (.ambiguousPath path entity))
  /-- If all of them can be compiled, there is a predicate. -/
  compiled : ∀ cs, policy.clauses filter = .ok cs →
    (∀ c ∈ cs, ∀ e, Predicate.ofClause schema c ≠ .error e) →
    ∃ p, policy.parse schema filter = .ok p
  /-- A blank filter, which is not taken through the stages, would come out of
  them the same. -/
  stages : policy.parse schema filter =
    ((policy.clauses filter).bind Predicate.always.andClauses).mapError (.inFilter filter)
  /-- A fault of the schema is never reported on its own. -/
  neverBare : ∀ fault, policy.parse schema filter ≠ .error (.schema fault)
  /-- It is reported with the filter, and only for a clause on an ambiguous
  path. -/
  blamesSchema : ∀ text fault, policy.parse schema filter = .error (.unexpected text fault) →
    text = filter ∧ ∃ segment ∈ Clause.segments filter, ∃ c, policy.Reads segment c ∧
      fault = .ambiguousPath c.property schema.entity ∧ c.Ambiguous schema

/-- **The outcome of a filter.** Every filter ends in this way, under every
policy and with every schema. -/
theorem parse_outcome (policy : Policy) (schema : Schema T) (filter : String) :
    policy.Outcome schema filter where
  excess limit limited excess := by
    have failed := clauses_of_excess limited excess
    exact ⟨failed, parse_of_clauses_error schema failed⟩
  refused room refused := by
    obtain ⟨e, first, failed⟩ := exists_clauses_error room refused
    exact ⟨e, first, failed, parse_of_clauses_error schema failed⟩
  read room := exists_clauses room
  uncompiled cs read failed := by
    obtain ⟨e, first, parsed⟩ := parse_of_uncompiled read failed
    refine ⟨e, first, ?_, ?_⟩
    · intro unlike
      rw [parsed]
      cases e with
      | schema fault =>
          cases fault with
          | ambiguousPath path entity => exact absurd rfl (unlike path entity)
      | _ => rfl
    · rintro path entity rfl
      exact parsed
  compiled cs read := exists_parse read
  stages := parse_eq_stages policy schema filter
  neverBare fault bare := by
    obtain ⟨cause, -, same⟩ := parse_eq_error_iff.mp bare
    exact FilterError.inFilter_ne_schema cause filter fault same
  blamesSchema text fault := parse_eq_unexpected

/-- Of the same filter, the number of segments is wrong under a limit of one;
without a limit its second segment is, and not the literal in the first. -/
theorem parse_outcome_person :
    Policy.parse { maxClauses := some 1 } Person.schema "age|gt|x; city" =
      .error (.tooManyClauses 2 1) ∧
    Policy.parse {} Person.schema "age|gt|x; city" = .error (.malformedClause "city") := by
  have two : (Clause.segments "age|gt|x; city").length = 2 := by decide +kernel
  refine ⟨?_, ?_⟩
  · have ends := (parse_outcome { maxClauses := some 1 } Person.schema "age|gt|x; city").excess 1
      rfl (by decide +kernel)
    rw [two] at ends
    exact ends.2
  · have unreadable : Clause.parse "city" = .error (.malformedClause "city") := by cbv
    have failed : Policy.clauses {} "age|gt|x; city" = .error (.malformedClause "city") := by cbv
    obtain ⟨e, -, failed', ends⟩ := (parse_outcome {} Person.schema "age|gt|x; city").refused
      (by simp [HasRoom]) ⟨"city", by decide +kernel, _, .unreadable unreadable⟩
    rw [failed] at failed'
    obtain rfl := Except.error.inj failed'
    exact ends

end Policy

end RecordFilter
