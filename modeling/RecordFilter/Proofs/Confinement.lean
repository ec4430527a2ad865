import RecordFilter.Proofs.Outcome

/-!
# Confinement to a whitelist

A whitelist confines the filters that are read under it in two ways. Their
predicates look at no other fields of a record than those that are allowed, so
they cannot tell records apart by the others. And the reading of a filter asks
a schema about allowed paths only, so neither the predicate nor the error
depends on what else the schema has.
-/

namespace RecordFilter

open Text Results

variable {T U : Type}

/-! ## Allowed paths -/

namespace Path

/-- The normal form of a member's path begins with that of the object. -/
theorem normalize_member (object path : String) :
    normalize (member object path) = normalize object ++ "." ++ normalize path := by
  have dot : ("." : String) = String.ofList ['.'] := rfl
  unfold normalize member
  rw [dot, pieces_append, List.map_append, String.intercalate_append_of_ne_nil]
  · simp [pieces_ne_nil]
  · simp [pieces_ne_nil]

/-- No member of an object has the path of the object. -/
theorem normalize_member_ne (object path : String) :
    normalize (member object path) ≠ normalize object := by
  intro same
  have lengths := congrArg String.length same
  rw [normalize_member, String.length_append, String.length_append] at lengths
  have dot : ".".length = 1 := rfl
  omega

end Path

namespace Whitelist

variable {w : Whitelist}

/-- Of a path only the normal form counts. -/
theorem allows_congr {p q : String} (h : Path.normalize p = Path.normalize q) :
    w.allows p = w.allows q := by
  unfold allows
  rw [h]

/-- One path more allows its own spellings and nothing else. -/
theorem allows_insert_iff {path q : String} :
    (w.insert path).allows q = true ↔
      w.allows q = true ∨ Path.normalize q = Path.normalize path := by
  unfold allows insert
  simp only [List.any_append, List.any_filter, List.any_cons, List.any_nil, Bool.or_false,
    Bool.or_eq_true, List.any_eq_true, Bool.and_eq_true, decide_eq_true_eq, beq_iff_eq]
  constructor
  · rintro (⟨entry, member, -, same⟩ | same)
    · exact .inl ⟨entry, member, same⟩
    · exact .inr same.symm
  · rintro (⟨entry, member, same⟩ | same)
    · -- an earlier spelling of the path is replaced, but still allowed
      by_cases replaced : entry.1 = Path.normalize path
      · exact .inr (replaced.symm.trans same)
      · exact .inl ⟨entry, member, replaced, same⟩
    · exact .inr same.symm

/-- A whitelist that allows an object says nothing about its members. -/
theorem allows_insert_object (w : Whitelist) (object path : String) :
    (w.insert object).allows (Path.member object path) = w.allows (Path.member object path) := by
  rw [Bool.eq_iff_iff, allows_insert_iff]
  constructor
  · rintro (allowed | same)
    · exact allowed
    · exact absurd same (Path.normalize_member_ne object path)
  · exact .inl

/-- The records have the same values in all fields that are allowed. -/
def Alike (w : Whitelist) (schema : Schema T) (a b : T) : Prop :=
  ∀ f ∈ schema.fields, w.allows f.path = true → f.value a = f.value b

/-- The schemas resolve all paths that are allowed to the same results. -/
def ResolveAlike (w : Whitelist) (s : Schema T) (s' : Schema U) : Prop :=
  ∀ path, w.allows path = true → s.resolve path = s'.resolve path

end Whitelist

namespace Policy

variable {policy : Policy} {w : Whitelist} {filter : String}

theorem allows_of_whitelist (whitelisted : policy.whitelist = some w) (path : String) :
    policy.allows path = w.allows path := by
  unfold allows
  rw [whitelisted]

/-- Every clause that is read is on an allowed path. -/
theorem allows_of_mem_clauses (whitelisted : policy.whitelist = some w) {cs : List Clause}
    (read : policy.clauses filter = .ok cs) : ∀ c ∈ cs, w.allows c.property = true := by
  intro c member
  obtain ⟨segment, -, -, allowed⟩ := exists_of_forall₂ (clauses_eq_ok_iff.mp read).2.flip c member
  rwa [allows_of_whitelist whitelisted] at allowed

end Policy

/-! ## References -/

/-- The condition of a clause refers to the field that the property means. -/
theorem Clause.references_conditionIn {schema : Schema T} {c : Clause} {result : Condition}
    (made : c.conditionIn schema = .ok result) :
    ∃ i f, schema.Means c.property i f ∧ ∀ r ∈ result.references, r = Schema.refTo f i := by
  obtain ⟨r, resolved, made⟩ := bind_eq_ok_iff.mp made
  obtain ⟨i, f, means, rfl⟩ := Schema.resolve_eq_ok_iff_means.mp resolved
  exact ⟨i, f, means, references_condition made⟩

namespace Predicate

variable {schema : Schema T} {w : Whitelist} {p q : Predicate schema}

/-- Every reference is to the field at its position, by the path under which
the field is registered, and the whitelist allows that path. -/
def RefersWithin (w : Whitelist) (p : Predicate schema) : Prop :=
  ∀ r ∈ p.condition.references, ∃ f, schema.fieldAt? r.index = some f ∧ f.path = r.path ∧
    w.allows r.path = true

theorem refersWithin_of_parse {policy : Policy} {filter : String}
    (whitelisted : policy.whitelist = some w) (parsed : policy.parse schema filter = .ok p) :
    p.RefersWithin w := by
  obtain ⟨terms, made, joined⟩ := Policy.parse_eq_ok_iff.mp parsed
  obtain ⟨cs, read, compiled⟩ := bind_eq_ok_iff.mp made
  intro r member
  rw [← joined, Condition.references_foldl_meet, Condition.references, List.nil_append,
    Condition.mem_allReferences] at member
  obtain ⟨term, among, member⟩ := member
  obtain ⟨c, mem, compiled⟩ := exists_of_forall₂ (mapM_eq_ok_iff.mp compiled).flip term among
  obtain ⟨i, f, ⟨⟨found, spelled⟩, -⟩, only⟩ := Clause.references_conditionIn compiled
  obtain rfl := only r member
  refine ⟨f, found, rfl, ?_⟩
  -- the path of the field is another spelling of the one that was checked
  show w.allows f.path = true
  rw [Whitelist.allows_congr spelled]
  exact Policy.allows_of_mem_clauses whitelisted read c mem

theorem refersWithin_and (left : p.RefersWithin w) (right : q.RefersWithin w) :
    (p.and q).RefersWithin w := by
  intro r member
  rw [condition_and, Condition.references_meet, List.mem_append] at member
  rcases member with member | member
  · exact left r member
  · exact right r member

theorem refersWithin_or (left : p.RefersWithin w) (right : q.RefersWithin w) :
    (p.or q).RefersWithin w := by
  intro r member
  rcases List.mem_append.mp (references_or_subset p q member) with member | member
  · exact left r member
  · exact right r member

/-- Predicates made of filters that are read under the whitelist, with any
limit on their clauses, by conjunction and disjunction. -/
inductive FromFilters (w : Whitelist) : Predicate schema → Prop
  | parsed {policy : Policy} {filter : String} {p : Predicate schema} :
      policy.whitelist = some w → policy.parse schema filter = .ok p → FromFilters w p
  | and {p q : Predicate schema} : FromFilters w p → FromFilters w q → FromFilters w (p.and q)
  | or {p q : Predicate schema} : FromFilters w p → FromFilters w q → FromFilters w (p.or q)

theorem refersWithin_of_fromFilters (h : p.FromFilters w) : p.RefersWithin w := by
  induction h with
  | parsed whitelisted parsed => exact refersWithin_of_parse whitelisted parsed
  | and _ _ left right => exact refersWithin_and left right
  | or _ _ left right => exact refersWithin_or left right

/-- What a predicate does not refer to cannot make a difference to it. -/
theorem holds_of_alike (within : p.RefersWithin w) {a b : T} (alike : w.Alike schema a b) :
    p.holds a = p.holds b := by
  refine Condition.holds_congr p.condition ?_
  intro r member f found
  obtain ⟨f', found', registered, allowed⟩ := within r member
  obtain rfl := Option.some.inj (found.symm.trans found')
  exact alike f (List.mem_of_getElem? found) (registered ▸ allowed)

end Predicate

/-! ## Data -/

/-- **Hidden data.** A predicate made of filters under a whitelist refers to
allowed fields only, and is true of both or none of two records that differ in
the others alone. To allow an object does not allow its members. -/
theorem Whitelist.hides_data (w : Whitelist) (schema : Schema T) :
    (∀ p : Predicate schema, p.FromFilters w →
      p.RefersWithin w ∧ ∀ a b, w.Alike schema a b → p.holds a = p.holds b) ∧
    ∀ object path,
      (w.insert object).allows (Path.member object path) = w.allows (Path.member object path) := by
  refine ⟨?_, w.allows_insert_object⟩
  intro p made
  have within := Predicate.refersWithin_of_fromFilters made
  exact ⟨within, fun a b => Predicate.holds_of_alike within⟩

/-- Persons of one age are alike where nothing but the age is allowed. -/
theorem Person.alike_of_age {a b : Person} (same : a.age = b.age) :
    (Whitelist.ofList ["Age"]).Alike Person.schema a b := by
  have hidden : ∀ path ∈ ["Nickname", "Address", "Address.City"],
      (Whitelist.ofList ["Age"]).allows path = false := by decide +kernel
  intro f member allowed
  rcases List.mem_cons.mp member with rfl | member
  · show ValueType.value (.int ⟨true, .w32⟩) a.age = ValueType.value (.int ⟨true, .w32⟩) b.age
    rw [same]
  · -- no other field is allowed
    have path : f.path ∈ ["Nickname", "Address", "Address.City"] :=
      List.mem_map_of_mem (f := Field.path) member
    rw [hidden f.path path] at allowed
    cases allowed

/-- Two filters on the age, joined, do not tell persons of one age apart. -/
theorem Whitelist.hides_data_person :
    (∃ p q : Predicate Person.schema,
      Policy.parse { whitelist := some (.ofList ["Age"]) } Person.schema "age|gt|17" = .ok p ∧
      Policy.parse { whitelist := some (.ofList ["Age"]) } Person.schema " AGE |in|3,4" = .ok q ∧
      ∀ a b, a.age = b.age → (p.or q).holds a = (p.or q).holds b) ∧
    (Whitelist.ofList ["Address"]).allows "Address.City" = false := by
  obtain ⟨p, first⟩ := exists_ok_of_isOk (x := Policy.parse
    { whitelist := some (.ofList ["Age"]) } Person.schema "age|gt|17") (by decide +kernel)
  obtain ⟨q, second⟩ := exists_ok_of_isOk (x := Policy.parse
    { whitelist := some (.ofList ["Age"]) } Person.schema " AGE |in|3,4") (by decide +kernel)
  refine ⟨⟨p, q, first, second, ?_⟩, (hides_data .empty Person.schema).2 "Address" "City"⟩
  intro a b same
  have made : (p.or q).FromFilters (.ofList ["Age"]) := .or (.parsed rfl first) (.parsed rfl second)
  exact ((hides_data _ Person.schema).1 _ made).2 a b (Person.alike_of_age same)

/-! ## Schemas -/

theorem Clause.conditionIn_congr {s : Schema T} {s' : Schema U} {c : Clause}
    (same : s.resolve c.property = s'.resolve c.property) :
    c.conditionIn s = c.conditionIn s' := by
  unfold conditionIn
  rw [same]

/-- All look-ups that the compilation of a filter makes are on allowed paths. -/
theorem Policy.conditions_congr {policy : Policy} {w : Whitelist}
    (whitelisted : policy.whitelist = some w) {s : Schema T} {s' : Schema U}
    (alike : w.ResolveAlike s s') (filter : String) :
    policy.conditions s filter = policy.conditions s' filter := by
  unfold conditions
  cases read : policy.clauses filter with
  | error e => rfl
  | ok cs =>
      refine mapM_congr ?_
      intro c member
      have allowed := allows_of_mem_clauses whitelisted read c member
      exact Clause.conditionIn_congr (alike c.property allowed)

/-- **Hidden members.** Under a whitelist, a filter has the same outcome with
all schemas that resolve the allowed paths alike: the same tree, or the same
error. A clause on any other path is refused by the whitelist, if not by the
limit or for a segment further left, before a schema is asked. -/
theorem Whitelist.hides_schema (w : Whitelist) (policy : Policy)
    (whitelisted : policy.whitelist = some w) (filter : String) :
    (∀ (T U : Type) (s : Schema T) (s' : Schema U), w.ResolveAlike s s' →
      (policy.parse s filter).map Predicate.condition =
        (policy.parse s' filter).map Predicate.condition) ∧
    ∀ segment ∈ Clause.segments filter, ∀ c, Clause.parse segment = .ok c →
      w.allows c.property = false →
      ∃ e, policy.clauses filter = .error e ∧
        ((∃ limit, policy.maxClauses = some limit ∧
          e = .tooManyClauses (Clause.segments filter).length limit) ∨
          Leftmost policy.Refuses (Clause.segments filter) e) ∧
        ∀ (T : Type) (schema : Schema T), policy.parse schema filter = .error e := by
  refine ⟨?_, ?_⟩
  · intro T U s s' alike
    rw [Policy.map_condition_parse, Policy.map_condition_parse,
      Policy.conditions_congr whitelisted alike]
  · -- the errors below are those of the clauses, for which there is no schema
    intro segment member c parsed forbidden
    rw [← Policy.allows_of_whitelist whitelisted] at forbidden
    rcases policy.room_or_excess (Clause.segments filter).length with
      room | ⟨limit, limited, excess⟩
    · obtain ⟨e, first, failed⟩ :=
        Policy.exists_clauses_error room ⟨segment, member, _, .forbidden parsed forbidden⟩
      exact ⟨e, failed, .inr first, fun T schema => Policy.parse_of_clauses_error schema failed⟩
    · have failed := Policy.clauses_of_excess limited excess
      exact ⟨_, failed, .inl ⟨limit, limited, rfl⟩,
        fun T schema => Policy.parse_of_clauses_error schema failed⟩

/-- The ages of persons, and nothing else of them. -/
def Person.ages : Schema Person :=
  (Schema.empty "Person").field "Age" (.int ⟨true, .w32⟩) Person.age

theorem Person.resolveAlike_ages :
    (Whitelist.ofList ["Age"]).ResolveAlike Person.schema Person.ages := by
  intro path allowed
  have spelled : Path.normalize path = Path.normalize "Age" := by
    rcases Whitelist.allows_insert_iff.mp allowed with before | same
    · cases before
    · exact same
  have all : Person.schema.candidates "Age" = [⟨"Age", 0, .int ⟨true, .w32⟩, false⟩] := by
    decide +kernel
  have ages : Person.ages.candidates "Age" = [⟨"Age", 0, .int ⟨true, .w32⟩, false⟩] := by
    decide +kernel
  rw [← Schema.candidates_congr _ spelled, ← Schema.resolve_eq_ok_iff] at all ages
  rw [all, ages]

/-- What there is beside the age of a person remains hidden: a filter on the
age has the same outcome without it, and a clause on a city is refused before a
clause on the age is found to be wrong. -/
theorem Whitelist.hides_schema_person :
    (Policy.parse { whitelist := some (.ofList ["Age"]) } Person.schema "age|gt|17").map
        Predicate.condition =
      (Policy.parse { whitelist := some (.ofList ["Age"]) } Person.ages "age|gt|17").map
        Predicate.condition ∧
    ∃ e, Policy.clauses { whitelist := some (.ofList ["Age"]) } "age|gt|x; city|eq|A" = .error e ∧
      Policy.parse { whitelist := some (.ofList ["Age"]) } Person.schema "age|gt|x; city|eq|A" =
        .error e := by
  have parsed : Clause.parse "city|eq|A" =
      .ok ⟨"city", .equals, ["A"], by decide +kernel, rfl⟩ := by cbv
  refine ⟨(hides_schema (.ofList ["Age"]) _ rfl _).1 _ _ _ _ Person.resolveAlike_ages, ?_⟩
  obtain ⟨e, failed, -, refused⟩ :=
    (hides_schema (.ofList ["Age"]) { whitelist := some (.ofList ["Age"]) } rfl
      "age|gt|x; city|eq|A").2 "city|eq|A" (by decide +kernel) _ parsed (by decide +kernel)
  exact ⟨e, failed, refused Person Person.schema⟩

end RecordFilter
