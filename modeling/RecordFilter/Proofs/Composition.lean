import RecordFilter.Proofs.Compilation
import RecordFilter.Proofs.Resolution
import RecordFilter.Proofs.Trimming

/-!
# Composition of filters

To write one filter behind another one, with a semicolon in between, is to join
their predicates. Without a limit on the number of clauses, whether a filter is
accepted and of which records it is true depends on the set of its segments
only: not on their order, on how often each one comes, or on the blanks around
and between them.
-/

namespace RecordFilter

open Text Results

variable {T : Type}

/-! ## Conjunction -/

namespace Condition

theorem conjuncts_and (a b : Condition) : (a.and b).conjuncts = a.conjuncts ++ b.conjuncts :=
  rfl

/-- Conjunctions are flattened, so it does not matter which one is made first. -/
theorem and_assoc (a b c : Condition) : (a.and b).and c = a.and (b.and c) := by
  show all ((a.and b).conjuncts ++ c.conjuncts) = all (a.conjuncts ++ (b.and c).conjuncts)
  rw [conjuncts_and, conjuncts_and, List.append_assoc]

theorem always_meet (a : Condition) : meet .always a = a :=
  rfl

theorem meet_always (a : Condition) : a.meet .always = a := by
  cases a <;> rfl

theorem meet_eq_and {a b : Condition} (left : a.isAlways = false) (right : b.isAlways = false) :
    a.meet b = a.and b := by
  rw [meet, left, right]
  rfl

/-- What is always true may stand in any place. -/
theorem meet_assoc (a b c : Condition) : (a.meet b).meet c = a.meet (b.meet c) := by
  -- what is always true drops out, and among the others `meet` is `and`
  cases left : a.isAlways with
  | true => rw [isAlways_iff.mp left, always_meet, always_meet]
  | false =>
      cases middle : b.isAlways with
      | true => rw [isAlways_iff.mp middle, meet_always, always_meet]
      | false =>
          cases right : c.isAlways with
          | true => rw [isAlways_iff.mp right, meet_always, meet_always]
          | false =>
              rw [meet_eq_and left middle, meet_eq_and middle right, meet_eq_and rfl right,
                meet_eq_and left rfl, and_assoc]

/-- By induction on the terms: they can be joined before the start is. -/
theorem foldl_meet (start : Condition) (terms : List Condition) :
    terms.foldl meet start = start.meet (terms.foldl meet .always) := by
  induction terms generalizing start with
  | nil => exact (meet_always start).symm
  | cons c rest ih =>
      rw [List.foldl_cons, List.foldl_cons, ih, ih (meet .always c), always_meet, meet_assoc]

theorem foldl_meet_append (xs ys : List Condition) :
    (xs ++ ys).foldl meet .always = (xs.foldl meet .always).meet (ys.foldl meet .always) := by
  rw [List.foldl_append, foldl_meet]

end Condition

/-! ## Segments -/

namespace Clause

theorem segments_append (f g : String) : segments (f ++ ";" ++ g) = segments f ++ segments g := by
  have semicolon : (";" : String) = String.ofList [';'] := rfl
  rw [segments, semicolon, pieces_append, List.map_append, List.filter_append]
  rfl

theorem mem_segments_iff {filter segment : String} :
    segment ∈ segments filter ↔
      segment ≠ "" ∧ ∃ piece ∈ pieces ';' filter, trim piece = segment := by
  rw [segments, List.mem_filter, List.mem_map, decide_eq_true_iff, and_comm]

/-- The second list comes of the first one when pieces change places, when one
is written twice, when a blank one is put in, and when blanks are put around
one; or when any of this is undone. -/
inductive Rearranged : List String → List String → Prop
  | reorder {xs ys : List String} : xs.Perm ys → Rearranged xs ys
  | duplicate {x : String} {xs : List String} : x ∈ xs → Rearranged xs (x :: xs)
  | blank {x : String} {xs : List String} : isBlank x = true → Rearranged xs (x :: xs)
  | pad {front back x : String} {xs : List String} : isBlank front = true →
      isBlank back = true → Rearranged (x :: xs) ((front ++ x ++ back) :: xs)
  | symm {xs ys : List String} : Rearranged xs ys → Rearranged ys xs
  | trans {xs ys zs : List String} : Rearranged xs ys → Rearranged ys zs → Rearranged xs zs

/-- By induction on the changes: none of them brings a new text in or takes one
away, apart from blanks. -/
theorem Rearranged.same_texts {xs ys : List String} (h : Rearranged xs ys) {segment : String}
    (some : segment ≠ "") :
    (∃ piece ∈ xs, trim piece = segment) ↔ ∃ piece ∈ ys, trim piece = segment := by
  induction h with
  | reorder perm => simp only [perm.mem_iff]
  | @duplicate x xs member =>
      rw [List.exists_mem_cons_iff]
      constructor
      · exact .inr
      · rintro (same | other)
        · exact ⟨x, member, same⟩
        · exact other
  | @blank x xs blank =>
      rw [List.exists_mem_cons_iff, trim_eq_empty blank]
      constructor
      · exact .inr
      · rintro (empty | other)
        · exact absurd empty.symm some
        · exact other
  | pad front back => rw [List.exists_mem_cons_iff, List.exists_mem_cons_iff, trim_pad _ front back]
  | symm _ ih => exact ih.symm
  | trans _ _ first second => exact first.trans second

theorem Rearranged.mem_segments_iff {f g : String}
    (h : Rearranged (pieces ';' f) (pieces ';' g)) (segment : String) :
    segment ∈ segments f ↔ segment ∈ segments g := by
  rw [Clause.mem_segments_iff, Clause.mem_segments_iff]
  refine and_congr_right ?_
  intro some
  exact h.same_texts some

end Clause

/-! ## Predicates -/

namespace Policy

variable {policy : Policy} {schema : Schema T} {f g filter : String}

/-- The condition that one segment makes. -/
def segmentCondition (policy : Policy) (schema : Schema T) (segment : String) :
    Except FilterError Condition :=
  (policy.readClause segment).bind (Clause.conditionIn schema)

/-- Without a limit each segment makes its condition on its own. -/
theorem conditions_eq_ok_iff_segments (unlimited : policy.maxClauses = none)
    {terms : List Condition} : policy.conditions schema filter = .ok terms ↔
      (Clause.segments filter).mapM (policy.segmentCondition schema) = .ok terms := by
  have room : policy.HasRoom (Clause.segments filter).length := by
    intro limit limited
    rw [unlimited] at limited
    cases limited
  rw [conditions_eq_ok_iff, mapM_eq_ok_iff]
  simp only [room, true_and, segmentCondition, bind_eq_ok_iff, readClause_eq_ok_iff]
  constructor
  · rintro ⟨cs, read, made⟩
    exact forall₂_comp read made
  · exact exists_forall₂_of_comp

theorem parse_eq_ok_iff_segments (unlimited : policy.maxClauses = none) {p : Predicate schema} :
    policy.parse schema filter = .ok p ↔
      ∃ terms, (Clause.segments filter).mapM (policy.segmentCondition schema) = .ok terms ∧
        terms.foldl Condition.meet .always = p.condition := by
  rw [parse_eq_ok_iff]
  simp only [conditions_eq_ok_iff_segments unlimited]

theorem exists_parse_of_segments (unlimited : policy.maxClauses = none) {terms : List Condition}
    (made : (Clause.segments filter).mapM (policy.segmentCondition schema) = .ok terms) :
    ∃ p, policy.parse schema filter = .ok p ∧
      p.condition = terms.foldl Condition.meet .always := by
  have whole := map_condition_parse policy schema filter
  rw [(conditions_eq_ok_iff_segments unlimited).mpr made] at whole
  exact map_eq_ok_iff.mp whole

/-- The predicate of two filters, one behind the other, is the conjunction of
theirs. -/
theorem parse_append_eq_ok_iff (unlimited : policy.maxClauses = none) {p : Predicate schema} :
    policy.parse schema (f ++ ";" ++ g) = .ok p ↔
      ∃ a b, policy.parse schema f = .ok a ∧ policy.parse schema g = .ok b ∧ p = a.and b := by
  rw [parse_eq_ok_iff_segments unlimited, Clause.segments_append]
  simp only [mapM_append_eq_ok_iff]
  -- one fold over all the terms is the conjunction of a fold over each part
  constructor
  · rintro ⟨_, ⟨left, right, first, second, rfl⟩, joined⟩
    obtain ⟨a, parsed, isA⟩ := exists_parse_of_segments unlimited first
    obtain ⟨b, parsed', isB⟩ := exists_parse_of_segments unlimited second
    refine ⟨a, b, parsed, parsed', Predicate.ext ?_⟩
    rw [Predicate.condition_and, isA, isB, ← joined, Condition.foldl_meet_append]
  · rintro ⟨a, b, first, second, rfl⟩
    obtain ⟨left, made, isA⟩ := (parse_eq_ok_iff_segments unlimited).mp first
    obtain ⟨right, made', isB⟩ := (parse_eq_ok_iff_segments unlimited).mp second
    refine ⟨left ++ right, ⟨left, right, made, made', rfl⟩, ?_⟩
    rw [Predicate.condition_and, ← isA, ← isB, Condition.foldl_meet_append]

/-- A filter is accepted exactly if each of its segments makes a condition. -/
theorem exists_parse_iff (unlimited : policy.maxClauses = none) :
    (∃ p, policy.parse schema filter = .ok p) ↔
      ∀ segment ∈ Clause.segments filter, ∃ term,
        policy.segmentCondition schema segment = .ok term := by
  constructor
  · rintro ⟨p, parsed⟩
    obtain ⟨terms, made, -⟩ := (parse_eq_ok_iff_segments unlimited).mp parsed
    intro segment member
    obtain ⟨term, -, made⟩ := exists_of_forall₂ (mapM_eq_ok_iff.mp made) segment member
    exact ⟨term, made⟩
  · intro each
    obtain ⟨terms, made⟩ := exists_mapM_eq_ok each
    obtain ⟨p, parsed, -⟩ := exists_parse_of_segments unlimited made
    exact ⟨p, parsed⟩

/-- It is true of the records of which all these conditions are true. -/
theorem holds_iff_segments (unlimited : policy.maxClauses = none) {p : Predicate schema}
    (parsed : policy.parse schema filter = .ok p) (record : T) :
    p.holds record = true ↔ ∀ segment ∈ Clause.segments filter, ∀ term,
      policy.segmentCondition schema segment = .ok term →
      term.holds schema record = true := by
  obtain ⟨terms, made, joined⟩ := (parse_eq_ok_iff_segments unlimited).mp parsed
  rw [Predicate.holds, ← joined, Condition.holds_foldl_meet, Condition.holds, Bool.true_and,
    List.all_eq_true]
  constructor
  · intro all segment member term makes
    exact all term ((mem_of_mapM_eq_ok made).mpr ⟨segment, member, makes⟩)
  · intro all term member
    obtain ⟨segment, among, makes⟩ := (mem_of_mapM_eq_ok made).mp member
    exact all segment among term makes

/-- With fewer segments, a filter is accepted of which no fewer records are
true. -/
theorem parse_of_segments_subset (unlimited : policy.maxClauses = none)
    (fewer : ∀ segment ∈ Clause.segments f, segment ∈ Clause.segments g) {q : Predicate schema}
    (parsed : policy.parse schema g = .ok q) :
    ∃ p, policy.parse schema f = .ok p ∧
      ∀ record, q.holds record = true → p.holds record = true := by
  -- acceptance and truth are both statements about all the segments
  have each := (exists_parse_iff unlimited).mp ⟨q, parsed⟩
  obtain ⟨p, parsed'⟩ := (exists_parse_iff unlimited).mpr
    fun segment member => each segment (fewer segment member)
  refine ⟨p, parsed', ?_⟩
  intro record
  rw [holds_iff_segments unlimited parsed, holds_iff_segments unlimited parsed']
  intro all segment member
  exact all segment (fewer segment member)

/-- With the same segments, two filters are accepted alike, and true of the same
records. -/
theorem parse_of_same_segments (unlimited : policy.maxClauses = none)
    (same : ∀ segment, segment ∈ Clause.segments f ↔ segment ∈ Clause.segments g) :
    ((∃ p, policy.parse schema f = .ok p) ↔ ∃ q, policy.parse schema g = .ok q) ∧
    ∀ p q, policy.parse schema f = .ok p → policy.parse schema g = .ok q →
      ∀ record, p.holds record = q.holds record := by
  refine ⟨?_, ?_⟩
  · rw [exists_parse_iff unlimited, exists_parse_iff unlimited]
    simp only [same]
  · intro p q first second record
    rw [Bool.eq_iff_iff, holds_iff_segments unlimited first, holds_iff_segments unlimited second]
    simp only [same]

/-- **Composition.** Without a limit on the number of clauses, the segments of
two filters, one behind the other, are those of the first and then those of the
second; they are accepted exactly if both are, as the very conjunction of their
predicates. So to change the order of the pieces of a filter, to write some
twice, or to put in blanks, as pieces of their own or around others, changes
neither whether it is accepted nor of which records it is true; and with more
segments, wherever they stand, no filter is true of more records. -/
theorem parse_compositional (policy : Policy) (unlimited : policy.maxClauses = none)
    (schema : Schema T) :
    (∀ f g, Clause.segments (f ++ ";" ++ g) = Clause.segments f ++ Clause.segments g) ∧
    (∀ f g p, policy.parse schema (f ++ ";" ++ g) = .ok p ↔
      ∃ a b, policy.parse schema f = .ok a ∧ policy.parse schema g = .ok b ∧ p = a.and b) ∧
    (∀ f g, Clause.Rearranged (pieces ';' f) (pieces ';' g) →
      ((∃ p, policy.parse schema f = .ok p) ↔ ∃ q, policy.parse schema g = .ok q) ∧
      ∀ p q, policy.parse schema f = .ok p → policy.parse schema g = .ok q →
        ∀ record, p.holds record = q.holds record) ∧
    ∀ f g, (∀ segment ∈ Clause.segments f, segment ∈ Clause.segments g) →
      ∀ q, policy.parse schema g = .ok q → ∃ p, policy.parse schema f = .ok p ∧
        ∀ record, q.holds record = true → p.holds record = true := by
  refine ⟨Clause.segments_append, ?_, ?_, ?_⟩
  · intro f g p
    exact parse_append_eq_ok_iff unlimited
  · intro f g rearranged
    exact parse_of_same_segments unlimited rearranged.mem_segments_iff
  · intro f g fewer q parsed
    exact parse_of_segments_subset unlimited fewer parsed

/-- A range and a test for null make one conjunction. A blank piece, blanks
around a piece and the same test once more change nothing. -/
theorem parse_compositional_person :
    (∃ p a b, Policy.parse {} Person.schema "age|between|17,30;nickname|isnull" = .ok p ∧
      Policy.parse {} Person.schema "age|between|17,30" = .ok a ∧
      Policy.parse {} Person.schema "nickname|isnull" = .ok b ∧ p = a.and b) ∧
    ∃ p q, Policy.parse {} Person.schema "age|gt|17;nickname|isnull" = .ok p ∧
      Policy.parse {} Person.schema "; nickname|isnull ;age|gt|17;nickname|isnull" = .ok q ∧
      ∀ record, p.holds record = q.holds record := by
  obtain ⟨-, joined, rearranged, -⟩ := parse_compositional {} rfl Person.schema
  obtain ⟨a, first⟩ := exists_ok_of_isOk
    (x := Policy.parse {} Person.schema "age|between|17,30") (by decide +kernel)
  obtain ⟨b, second⟩ := exists_ok_of_isOk
    (x := Policy.parse {} Person.schema "nickname|isnull") (by decide +kernel)
  obtain ⟨p, parsed⟩ := exists_ok_of_isOk
    (x := Policy.parse {} Person.schema "age|gt|17;nickname|isnull") (by decide +kernel)
  have whole : "age|between|17,30;nickname|isnull" =
      "age|between|17,30" ++ ";" ++ "nickname|isnull" := by decide +kernel
  refine ⟨⟨a.and b, a, b, ?_, first, second, rfl⟩, ?_⟩
  · rw [whole]
    exact (joined _ _ _).mpr ⟨a, b, first, second, rfl⟩
  have before : pieces ';' "age|gt|17;nickname|isnull" = ["age|gt|17", "nickname|isnull"] := by
    decide +kernel
  have after : pieces ';' "; nickname|isnull ;age|gt|17;nickname|isnull" =
      ["", " nickname|isnull ", "age|gt|17", "nickname|isnull"] := by decide +kernel
  have twice : Clause.Rearranged ["age|gt|17", "nickname|isnull"]
      ["nickname|isnull", "age|gt|17", "nickname|isnull"] := .duplicate (by simp)
  have spaced : " nickname|isnull " = " " ++ "nickname|isnull" ++ " " := by decide +kernel
  have padded : Clause.Rearranged ["nickname|isnull", "age|gt|17", "nickname|isnull"]
      [" nickname|isnull ", "age|gt|17", "nickname|isnull"] := by
    rw [spaced]
    exact .pad (by decide +kernel) (by decide +kernel)
  have changed : Clause.Rearranged (pieces ';' "age|gt|17;nickname|isnull")
      (pieces ';' "; nickname|isnull ;age|gt|17;nickname|isnull") := by
    rw [before, after]
    exact (twice.trans padded).trans (.blank (by decide +kernel))
  obtain ⟨accepted, agree⟩ := rearranged _ _ changed
  obtain ⟨q, parsed'⟩ := accepted.mp ⟨p, parsed⟩
  exact ⟨p, q, parsed, parsed', agree p q parsed parsed'⟩

end Policy

end RecordFilter
