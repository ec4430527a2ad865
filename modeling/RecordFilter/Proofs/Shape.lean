import RecordFilter.Proofs.Algebra
import RecordFilter.Proofs.Applicability
import RecordFilter.Proofs.Typing

/-!
# The shape of compiled filters

The condition of a filter is flat. The tests of its clauses stand side by side
in one conjunction, in the order of the clauses, and only a choice between
several values is a disjunction of its own there. With every clause and every
value the tree gets wider, but it is never deeper than three.
-/

namespace RecordFilter

open Text Results

variable {T : Type}

namespace Condition

/-! ## Depth -/

mutual

/-- The number of nodes on the longest way from the root to a leaf. -/
def depth : Condition → Nat
  | .always | .compare .. | .text .. | .null .. => 1
  | .all terms => depths terms + 1
  | .any terms => depths terms + 1

/-- The depth of the deepest of the trees. -/
def depths : List Condition → Nat
  | [] => 0
  | c :: rest => max c.depth (depths rest)

end

theorem depths_le {terms : List Condition} {bound : Nat} (h : ∀ c ∈ terms, c.depth ≤ bound) :
    depths terms ≤ bound := by
  induction terms with
  | nil => exact Nat.zero_le bound
  | cons c rest ih =>
      rw [List.forall_mem_cons] at h
      exact Nat.max_le.mpr ⟨h.1, ih h.2⟩

/-! ## Terms of a flat conjunction -/

/-- A comparison of a field with a constant. -/
def IsComparison (c : Condition) : Prop :=
  ∃ r op constant, c = .compare r op constant

/-- What may stand in a flat conjunction: a test, or a disjunction of
comparisons. -/
inductive IsTerm : Condition → Prop
  | compare (r : FieldRef) (op : CompareOp) (constant : Value) : IsTerm (.compare r op constant)
  | text (r : FieldRef) (op : TextOp) (pattern : String) : IsTerm (.text r op pattern)
  | null (r : FieldRef) (negated : Bool) : IsTerm (.null r negated)
  | choice {terms : List Condition} : (∀ c ∈ terms, c.IsComparison) → IsTerm (.any terms)

variable {c node : Condition} {terms xs ys : List Condition}

theorem IsTerm.conjuncts (term : c.IsTerm) : c.conjuncts = [c] := by
  cases term <;> rfl

theorem IsTerm.isAlways (term : c.IsTerm) : c.isAlways = false := by
  cases term <;> rfl

theorem IsComparison.depth (comparison : c.IsComparison) : c.depth = 1 := by
  obtain ⟨r, op, constant, rfl⟩ := comparison
  rfl

theorem IsTerm.depth_le (term : c.IsTerm) : c.depth ≤ 2 := by
  cases term with
  | compare | text | null => exact Nat.le_succ 1
  | choice each =>
      have shallow := depths_le fun c member => Nat.le_of_eq (each c member).depth
      exact Nat.succ_le_succ shallow

/-- A comparison has no node but itself. -/
theorem IsComparison.eq_of_hasNode (comparison : c.IsComparison) (member : c.HasNode node) :
    node = c := by
  obtain ⟨r, op, constant, rfl⟩ := comparison
  cases member
  rfl

/-- Inside a term there are comparisons only. -/
theorem IsTerm.of_hasNode (term : c.IsTerm) (member : c.HasNode node) :
    node = c ∨ node.IsComparison := by
  cases term with
  | compare | text | null =>
      cases member
      exact .inl rfl
  | choice each =>
      cases member with
      | root => exact .inl rfl
      | any among inside =>
          have comparison := each _ among
          rw [comparison.eq_of_hasNode inside]
          exact .inr comparison

/-! ## Flat conjunctions -/

/-- Conjunction of a list of terms; no terms are always true, and a single one
stands for itself. -/
def allOf : List Condition → Condition
  | [] => .always
  | [c] => c
  | terms => .all terms

theorem allOf_eq_all (several : 2 ≤ terms.length) : allOf terms = .all terms := by
  match terms, several with
  | _ :: _ :: _, _ => rfl

theorem conjuncts_allOf (some : terms ≠ []) (each : ∀ c ∈ terms, c.IsTerm) :
    (allOf terms).conjuncts = terms := by
  match terms, some with
  | [c], _ => exact (each c List.mem_cons_self).conjuncts
  | _ :: _ :: _, _ => rfl

theorem isAlways_allOf (each : ∀ c ∈ terms, c.IsTerm) :
    (allOf terms).isAlways = terms.isEmpty := by
  match terms with
  | [] => rfl
  | [c] => exact (each c List.mem_cons_self).isAlways
  | _ :: _ :: _ => rfl

theorem references_allOf (terms : List Condition) :
    (allOf terms).references = allReferences terms := by
  match terms with
  | [] => rfl
  | [c] => exact (List.append_nil _).symm
  | _ :: _ :: _ => rfl

/-- Flat conjunctions are joined to a flat one. -/
theorem allOf_meet_allOf (left : ∀ c ∈ xs, c.IsTerm) (right : ∀ c ∈ ys, c.IsTerm) :
    (allOf xs).meet (allOf ys) = allOf (xs ++ ys) := by
  by_cases noLeft : xs = []
  · rw [noLeft]
    exact always_meet _
  by_cases noRight : ys = []
  · rw [noRight, List.append_nil]
    exact meet_always _
  have first : (allOf xs).isAlways = false := by simpa [isAlways_allOf left] using noLeft
  have second : (allOf ys).isAlways = false := by simpa [isAlways_allOf right] using noRight
  have several : 2 ≤ (xs ++ ys).length := by
    have := List.length_pos_iff.mpr noLeft
    have := List.length_pos_iff.mpr noRight
    rw [List.length_append]
    omega
  rw [meet_eq_and first second, Condition.and, conjuncts_allOf noLeft left,
    conjuncts_allOf noRight right, allOf_eq_all several]

/-- By induction on the list: if each condition is a flat conjunction, all of
them are joined to the one that has all their terms in order. -/
theorem foldl_meet_allOf {conditions : List Condition} {termss : List (List Condition)}
    (each : List.Forall₂ (fun c terms => c = allOf terms ∧ ∀ term ∈ terms, term.IsTerm)
      conditions termss) : conditions.foldl meet .always = allOf termss.flatten := by
  induction each with
  | nil => rfl
  | @cons c terms conditions termss first others ih =>
      obtain ⟨rfl, areTerms⟩ := first
      have others : ∀ term ∈ termss.flatten, term.IsTerm := by
        intro term member
        obtain ⟨terms', among, member⟩ := List.mem_flatten.mp member
        obtain ⟨_, -, -, areTerms'⟩ := exists_of_forall₂ others.flip terms' among
        exact areTerms' term member
      rw [List.foldl_cons, foldl_meet, always_meet, ih, allOf_meet_allOf areTerms others,
        List.flatten_cons]

/-- The nodes of a flat conjunction: all of it, its terms, and the comparisons
in these. -/
theorem of_hasNode_allOf (each : ∀ c ∈ terms, c.IsTerm) (member : (allOf terms).HasNode node) :
    (terms = [] ∧ node = .always) ∨ node = .all terms ∨ node ∈ terms ∨ node.IsComparison := by
  have inside : ∀ c ∈ terms, c.HasNode node → node ∈ terms ∨ node.IsComparison := by
    intro c among below
    refine ((each c among).of_hasNode below).imp_left ?_
    rintro rfl
    exact among
  match terms with
  | [] =>
      cases member
      exact .inl ⟨rfl, rfl⟩
  | [c] => exact .inr (.inr (inside c List.mem_cons_self member))
  | _ :: _ :: _ =>
      cases member with
      | root => exact .inr (.inl rfl)
      | all among below => exact .inr (.inr (inside _ among below))

theorem depth_allOf_le (each : ∀ c ∈ terms, c.IsTerm) : (allOf terms).depth ≤ 3 := by
  match terms with
  | [] => exact Nat.le_add_left 1 2
  | [c] => exact Nat.le_succ_of_le (each c List.mem_cons_self).depth_le
  | _ :: _ :: _ => exact Nat.succ_le_succ (depths_le fun c member => (each c member).depth_le)

end Condition

/-! ## Clauses -/

namespace Clause

/-- The terms that a clause contributes on a field: two comparisons if it is a
range, a disjunction if it is a choice between several values, and otherwise
one test. -/
inductive Contributes (c : Clause) (r : FieldRef) : List Condition → Prop
  | comparison {op : CompareOp} {v : String} {rest : List String} {constant : Value} :
      c.operator.test = .comparison op ∨ c.operator.test = .order op → c.values = v :: rest →
      Literal.constant r.type v = .ok constant → Contributes c r [.compare r op constant]
  | search {op : TextOp} {v : String} {rest : List String} :
      c.operator.test = .search op → c.values = v :: rest →
      Contributes c r [.text r op (lower v)]
  | range {low high : String} {least greatest : Value} :
      c.operator = .between → c.values = [low, high] →
      Literal.constant r.type low = .ok least → Literal.constant r.type high = .ok greatest →
      Contributes c r [.compare r .ge least, .compare r .le greatest]
  | single {v : String} {constant : Value} : c.operator = .oneOf → c.values = [v] →
      Literal.constant r.type v = .ok constant → Contributes c r [.compare r .eq constant]
  | choice {constants : List Value} : c.operator = .oneOf → 2 ≤ c.values.length →
      List.Forall₂ (fun v constant => Literal.constant r.type v = .ok constant)
        c.values constants →
      Contributes c r [.any (constants.map (.compare r .eq))]
  | absence {negated : Bool} : c.operator.test = .absence negated →
      Contributes c r [.null r negated]

/-- The number of tests that a clause makes. -/
def testCount (c : Clause) : Nat :=
  match c.operator with
  | .between => 2
  | .oneOf => c.values.length
  | _ => 1

variable {c : Clause} {r : FieldRef} {terms : List Condition} {result : Condition}

theorem testCount_eq_one (noRange : c.operator ≠ .between) (noChoice : c.operator ≠ .oneOf) :
    c.testCount = 1 := by
  unfold testCount
  cases known : c.operator <;> simp_all

theorem Contributes.ne_nil (contributes : c.Contributes r terms) : terms ≠ [] := by
  cases contributes <;> exact List.cons_ne_nil _ _

theorem Contributes.isTerm (contributes : c.Contributes r terms) :
    ∀ term ∈ terms, term.IsTerm := by
  cases contributes with
  | comparison | single => exact List.forall_mem_singleton.mpr (.compare ..)
  | search => exact List.forall_mem_singleton.mpr (.text ..)
  | range =>
      exact List.forall_mem_cons.mpr ⟨.compare .., List.forall_mem_singleton.mpr (.compare ..)⟩
  | absence => exact List.forall_mem_singleton.mpr (.null ..)
  | choice =>
      refine List.forall_mem_singleton.mpr (.choice (List.forall_mem_map.mpr ?_))
      intro constant _
      exact ⟨r, .eq, constant, rfl⟩

theorem allReferences_map_compare (r : FieldRef) (op : CompareOp) (constants : List Value) :
    Condition.allReferences (constants.map (.compare r op)) =
      List.replicate constants.length r := by
  induction constants with
  | nil => rfl
  | cons constant rest ih =>
      rw [List.map_cons, Condition.allReferences, ih, Condition.references,
        List.singleton_append, List.length_cons, List.replicate_succ]

/-- A clause refers to its field once for each of its tests. -/
theorem Contributes.allReferences (contributes : c.Contributes r terms) :
    Condition.allReferences terms = List.replicate c.testCount r := by
  cases contributes with
  | comparison test =>
      rw [testCount_eq_one (by rintro h; simp [h, Operator.test] at test)
        (by rintro h; simp [h, Operator.test] at test)]
      rfl
  | search test | absence test =>
      rw [testCount_eq_one (by rintro h; simp [h, Operator.test] at test)
        (by rintro h; simp [h, Operator.test] at test)]
      rfl
  | range range =>
      rw [testCount, range]
      rfl
  | single choice values =>
      rw [testCount, choice, values]
      rfl
  | choice choice _ read =>
      rw [Condition.allReferences, Condition.references, allReferences_map_compare,
        ← read.length_eq, testCount, choice]
      exact List.append_nil _

/-- The comparisons of a choice, value by value. -/
theorem exists_constants {op : CompareOp} {literals : List String}
    (made : literals.mapM (comparison r op) = .ok terms) :
    ∃ constants, terms = constants.map (.compare r op) ∧
      List.Forall₂ (fun v constant => Literal.constant r.type v = .ok constant)
        literals constants := by
  rw [mapM_eq_ok_iff] at made
  induction made with
  | nil => exact ⟨[], rfl, .nil⟩
  | cons first _ ih =>
      obtain ⟨constants, rfl, read⟩ := ih
      obtain ⟨constant, found, rfl⟩ := map_eq_ok_iff.mp first
      exact ⟨constant :: constants, rfl, .cons found read⟩

/-- The condition of a clause is the flat conjunction of its terms. -/
theorem exists_contributes (made : c.condition r = .ok result) :
    ∃ terms, c.Contributes r terms ∧ result = .allOf terms := by
  have inversion := condition_eq_ok made
  cases test : c.operator.test with
  | comparison op =>
      rw [test] at inversion
      obtain ⟨v, rest, values, made⟩ := inversion
      obtain ⟨constant, read, rfl⟩ := map_eq_ok_iff.mp made
      exact ⟨_, .comparison (.inl test) values read, rfl⟩
  | order op =>
      rw [test] at inversion
      obtain ⟨v, rest, values, made⟩ := inversion
      obtain ⟨constant, read, rfl⟩ := map_eq_ok_iff.mp (comparison_of_orderComparison made)
      exact ⟨_, .comparison (.inr test) values read, rfl⟩
  | search op =>
      rw [test] at inversion
      obtain ⟨v, rest, values, made⟩ := inversion
      unfold search at made
      split at made
      · obtain ⟨-, -, rfl⟩ := map_eq_ok_iff.mp made
        exact ⟨_, .search test values, rfl⟩
      · cases made
  | range =>
      rw [test] at inversion
      obtain ⟨low, high, lower, upper, values, first, second, rfl⟩ := inversion
      obtain ⟨least, readLow, rfl⟩ := map_eq_ok_iff.mp (comparison_of_orderComparison first)
      obtain ⟨greatest, readHigh, rfl⟩ := map_eq_ok_iff.mp (comparison_of_orderComparison second)
      have between : c.operator = .between := by
        cases known : c.operator <;> simp [known, Operator.test] at test ⊢
      exact ⟨_, .range between values readLow readHigh, rfl⟩
  | choice =>
      rw [test] at inversion
      obtain ⟨alternatives, each, rfl⟩ := inversion
      obtain ⟨constants, rfl, read⟩ := exists_constants each
      have oneOf : c.operator = .oneOf := by
        cases known : c.operator <;> simp [known, Operator.test] at test ⊢
      obtain ⟨v, rest, values⟩ := exists_values (c := c) (by rw [oneOf]; rfl)
      cases rest with
      | nil =>
          -- one alternative is no disjunction
          rw [values] at read
          cases read with
          | cons first others =>
              cases others
              exact ⟨_, .single oneOf values first, rfl⟩
      | cons w more =>
          have several : 2 ≤ c.values.length := by simp [values]
          refine ⟨_, .choice oneOf several read, ?_⟩
          rw [values] at read
          cases read with
          | cons _ others =>
              cases others
              rfl
  | absence negated =>
      rw [test] at inversion
      subst inversion
      exact ⟨_, .absence test, rfl⟩

end Clause

/-! ## Filters -/

/-- The condition is flat: it is made of the terms that the clauses contribute
on the fields that are referred to. -/
structure Condition.Flat (k : Condition) (cs : List Clause) (refs : List FieldRef)
    (termss : List (List Condition)) : Prop where
  /-- Without clauses, it is always true. -/
  none : cs = [] → k = .always
  /-- With clauses, it is not. -/
  isAlways : k.isAlways = true ↔ cs = []
  /-- Several clauses make one conjunction of all the terms, in order. -/
  several : 2 ≤ cs.length → k = .all termss.flatten
  /-- So does a single clause, unless there is only one term. -/
  tree : k = .allOf termss.flatten
  /-- There is no conjunction inside a conjunction. -/
  conjunction : ∀ terms inner, k.HasNode (.all terms) →
    ∀ term ∈ terms, ¬ term.HasNode (.all inner)
  /-- There are only comparisons inside a disjunction. -/
  disjunction : ∀ terms, k.HasNode (.any terms) → ∀ term ∈ terms, term.IsComparison
  /-- What is always true is no part of anything else. -/
  noAlways : cs ≠ [] → ¬ k.HasNode .always
  /-- However many clauses and values there are, the tree is not deep. -/
  depth : k.depth ≤ 3
  /-- There are the tests of the clauses and no others. -/
  leafCount : k.leafCount = (cs.map Clause.testCount).sum
  /-- They refer to the fields of the clauses, in the order of these. -/
  references : k.references =
    (cs.zip refs).flatMap fun (c, r) => List.replicate c.testCount r

/-- Each clause contributes these terms on its field. -/
abbrev Clause.Contributions (parts : List (Clause × FieldRef))
    (termss : List (List Condition)) : Prop :=
  List.Forall₂ (fun (c, r) terms => c.Contributes r terms) parts termss

namespace Clause.Contributions

variable {parts : List (Clause × FieldRef)} {termss : List (List Condition)}

/-- What the clauses contribute, one after the other, are terms. -/
theorem isTerm (each : Contributions parts termss) :
    ∀ term ∈ termss.flatten, term.IsTerm := by
  intro term member
  obtain ⟨terms, among, member⟩ := List.mem_flatten.mp member
  obtain ⟨⟨c, r⟩, -, contributes⟩ := exists_of_forall₂ each.flip terms among
  exact contributes.isTerm term member

theorem allReferences (each : Contributions parts termss) :
    Condition.allReferences termss.flatten =
      parts.flatMap fun (c, r) => List.replicate c.testCount r := by
  induction each with
  | nil => rfl
  | cons first _ ih =>
      rw [List.flatten_cons, Condition.allReferences_append, first.allReferences, ih,
        List.flatMap_cons]

/-- Every clause contributes something. -/
theorem length_le (each : Contributions parts termss) : parts.length ≤ termss.flatten.length := by
  induction each with
  | nil => exact Nat.le_refl 0
  | @cons part terms _ _ first _ ih =>
      have some : 0 < terms.length := List.length_pos_iff.mpr first.ne_nil
      rw [List.flatten_cons, List.length_append, List.length_cons]
      omega

end Clause.Contributions

section Flat

variable {cs : List Clause} {refs : List FieldRef} {termss : List (List Condition)}

theorem sum_testCount (fields : cs.length = refs.length) :
    ((cs.zip refs).flatMap fun (c, r) => List.replicate c.testCount r).length =
      (cs.map Clause.testCount).sum := by
  induction cs generalizing refs with
  | nil => rfl
  | cons c rest ih =>
      cases refs with
      | nil => cases fields
      | cons r more =>
          rw [List.zip_cons_cons, List.flatMap_cons, List.length_append, List.length_replicate,
            ih (Nat.succ.inj fields), List.map_cons, List.sum_cons]

/-- The terms of clauses on their fields make a flat condition. -/
theorem Condition.flat_allOf (fields : cs.length = refs.length)
    (each : Clause.Contributions (cs.zip refs) termss) :
    (allOf termss.flatten).Flat cs refs termss := by
  have areTerms := each.isTerm
  have enough := each.length_le
  rw [List.length_zip, ← fields, Nat.min_self] at enough
  have no_all : ∀ terms, ¬ IsTerm (.all terms) := nofun
  have no_always : ¬ IsTerm .always := nofun
  have none_iff : termss.flatten = [] ↔ cs = [] := by
    constructor
    · intro empty
      rw [empty] at enough
      exact List.eq_nil_of_length_eq_zero (Nat.le_zero.mp enough)
    · rintro rfl
      cases each
      rfl
  refine ⟨?_, ?_, ?_, rfl, ?_, ?_, ?_, depth_allOf_le areTerms, ?_, ?_⟩
  · intro none
    rw [none_iff.mpr none]
    rfl
  · rw [isAlways_allOf areTerms, List.isEmpty_iff, none_iff]
  · intro several
    exact allOf_eq_all (several.trans enough)
  · intro terms inner outside term member inside
    -- the conjunction is all of the condition, so the other one is in a term
    rcases of_hasNode_allOf areTerms outside with ⟨-, h⟩ | h | h | ⟨_, _, _, h⟩
    · cases h
    · obtain rfl := Condition.all.inj h
      rcases (areTerms term member).of_hasNode inside with rfl | ⟨_, _, _, h⟩
      · exact no_all inner (areTerms _ member)
      · cases h
    · exact no_all terms (areTerms _ h)
    · cases h
  · intro terms inside
    rcases of_hasNode_allOf areTerms inside with ⟨-, h⟩ | h | h | ⟨_, _, _, h⟩
    · cases h
    · cases h
    · cases areTerms _ h with
      | choice comparisons => exact comparisons
    · cases h
  · intro some inside
    rcases of_hasNode_allOf areTerms inside with ⟨empty, -⟩ | h | h | ⟨_, _, _, h⟩
    · exact some (none_iff.mp empty)
    · cases h
    · exact no_always (areTerms _ h)
    · cases h
  · rw [leafCount_eq_length, references_allOf, each.allReferences, sum_testCount fields]
  · rw [references_allOf, each.allReferences]

end Flat

namespace Policy

variable {policy : Policy} {schema : Schema T} {filter : String}

/-- Each condition of a filter comes from a clause and is the conjunction of the
terms that the clause contributes. -/
theorem exists_contributions {cs : List Clause} {conditions : List Condition}
    (made : List.Forall₂ (fun c k => Clause.conditionIn schema c = .ok k) cs conditions) :
    ∃ refs termss, List.Forall₂ (fun c r => schema.resolve c.property = .ok r) cs refs ∧
      Clause.Contributions (cs.zip refs) termss ∧
      List.Forall₂ (fun k terms => k = .allOf terms ∧ ∀ term ∈ terms, term.IsTerm)
        conditions termss := by
  induction made with
  | nil => exact ⟨[], [], .nil, .nil, .nil⟩
  | cons first _ ih =>
      obtain ⟨refs, termss, resolved, contributed, flat⟩ := ih
      obtain ⟨r, means, made⟩ := bind_eq_ok_iff.mp first
      obtain ⟨terms, contributes, rfl⟩ := Clause.exists_contributes made
      exact ⟨r :: refs, terms :: termss, .cons means resolved, .cons contributes contributed,
        .cons ⟨rfl, contributes.isTerm⟩ flat⟩

/-- **The shape of a filter.** The condition of a filter that is accepted is flat
over its clauses: a single clause has its own tree, and any more of them are in
one conjunction, with nothing deeper in it than a choice between constants. -/
theorem parse_shape (policy : Policy) (schema : Schema T) (filter : String)
    {p : Predicate schema} (parsed : policy.parse schema filter = .ok p) :
    ∃ cs refs termss, policy.clauses filter = .ok cs ∧
      List.Forall₂ (fun c r => schema.resolve c.property = .ok r) cs refs ∧
      Clause.Contributions (cs.zip refs) termss ∧
      (∀ c, cs = [c] → Predicate.ofClause schema c = .ok p) ∧
      p.condition.Flat cs refs termss := by
  obtain ⟨conditions, made, joined⟩ := parse_eq_ok_iff.mp parsed
  obtain ⟨room, cs, read, compiled⟩ := conditions_eq_ok_iff.mp made
  obtain ⟨refs, termss, resolved, contributed, flat⟩ := exists_contributions compiled
  have tree : p.condition = .allOf termss.flatten := by
    rw [← joined, Condition.foldl_meet_allOf flat]
  refine ⟨cs, refs, termss, clauses_eq_ok_iff.mpr ⟨room, read⟩, resolved, contributed, ?_, ?_⟩
  · rintro c rfl
    cases compiled with
    | cons first others =>
        cases others
        obtain ⟨q, built, condition⟩ := Predicate.exists_ofClause first
        rw [built, Predicate.ext (condition.trans joined)]
  · rw [tree]
    exact Condition.flat_allOf resolved.length_eq contributed

/-- A range, a choice and a test for null: the two comparisons of the range and
the test stand in the same conjunction as the choice. -/
theorem parse_shape_person :
    ∃ (p : Predicate Person.schema) (terms : List Condition),
      Policy.parse {} Person.schema "age|between|17,30;nickname|in|a,b;address|notnull" = .ok p ∧
      p.condition = .all terms ∧ (∀ inner, ∀ term ∈ terms, ¬ term.HasNode (.all inner)) ∧
      p.condition.leafCount = 5 ∧ p.condition.depth ≤ 3 := by
  obtain ⟨p, parsed⟩ := exists_ok_of_isOk (x := Policy.parse {} Person.schema
    "age|between|17,30;nickname|in|a,b;address|notnull") (by decide +kernel)
  obtain ⟨cs, refs, termss, read, -, -, -, flat⟩ := parse_shape {} Person.schema _ parsed
  have counts : (Policy.clauses {} "age|between|17,30;nickname|in|a,b;address|notnull").map
      (List.map Clause.testCount) = .ok [2, 2, 1] := by decide +kernel
  rw [read] at counts
  have tests : cs.map Clause.testCount = [2, 2, 1] := Except.ok.inj counts
  have several : 2 ≤ cs.length := by
    rw [← List.length_map (f := Clause.testCount), tests]
    decide
  have whole := flat.several several
  refine ⟨p, termss.flatten, parsed, whole, ?_, ?_, flat.depth⟩
  · intro inner
    exact flat.conjunction _ inner (whole ▸ .root)
  · rw [flat.leafCount, tests]
    rfl

end Policy

end RecordFilter
