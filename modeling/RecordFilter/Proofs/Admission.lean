import RecordFilter.Proofs.Confinement
import RecordFilter.Proofs.Registration

/-!
# Admission by a whitelist

A whitelist takes filters away and does nothing else: a filter that it lets
through makes the same predicate as without it. The whitelist of all the fields
of a schema lets every filter through that the schema can compile, since it
knows a path by the same spellings as the look-up does.
-/

namespace RecordFilter

open Results

variable {T : Type}

/-! ## Clauses under a whitelist -/

namespace Policy

variable {w w' : Whitelist} {limit : Option Nat} {filter : String} {schema : Schema T}

theorem reads_whitelist_iff {segment : String} {c : Clause} :
    Reads { whitelist := some w, maxClauses := limit } segment c ↔
      Reads { whitelist := none, maxClauses := limit } segment c ∧ w.allows c.property = true := by
  simp [Reads, allows]

/-- A whitelist lets the clauses of a filter through if it allows all of their
paths. -/
theorem clauses_whitelist_iff {cs : List Clause} :
    clauses { whitelist := some w, maxClauses := limit } filter = .ok cs ↔
      clauses { whitelist := none, maxClauses := limit } filter = .ok cs ∧
      ∀ c ∈ cs, w.allows c.property = true := by
  rw [clauses_eq_ok_iff, clauses_eq_ok_iff, and_assoc]
  -- the limit is the same
  refine and_congr_right fun _ => ?_
  constructor
  · intro read
    have both := read.imp fun _ _ reads => reads_whitelist_iff.mp reads
    refine ⟨both.imp fun _ _ reads => reads.1, ?_⟩
    intro c member
    obtain ⟨segment, -, -, allowed⟩ := exists_of_forall₂ both.flip c member
    exact allowed
  · rintro ⟨read, allowed⟩
    have both := (List.forall₂_and_left cs _).mpr ⟨allowed, read.flip⟩
    refine both.flip.imp ?_
    rintro segment c ⟨allowed, reads⟩
    exact reads_whitelist_iff.mpr ⟨reads, allowed⟩

/-- Once the clauses are read, the policy has no say anymore. -/
theorem parse_eq_ok_iff_clauses {policy : Policy} {p : Predicate schema} :
    policy.parse schema filter = .ok p ↔
      ∃ cs, policy.clauses filter = .ok cs ∧
        ∃ terms, cs.mapM (Clause.conditionIn schema) = .ok terms ∧
          terms.foldl Condition.meet .always = p.condition := by
  rw [parse_eq_ok_iff]
  simp only [conditions, bind_eq_ok_iff]
  constructor
  · rintro ⟨terms, ⟨cs, read, made⟩, joined⟩
    exact ⟨cs, read, terms, made, joined⟩
  · rintro ⟨cs, read, terms, made, joined⟩
    exact ⟨terms, ⟨cs, read, made⟩, joined⟩

/-- A filter is accepted under a whitelist if it is accepted without one and all
of its clauses are on allowed paths. -/
theorem parse_whitelist_iff {p : Predicate schema} :
    parse { whitelist := some w, maxClauses := limit } schema filter = .ok p ↔
      parse { whitelist := none, maxClauses := limit } schema filter = .ok p ∧
      ∃ cs, clauses { whitelist := none, maxClauses := limit } filter = .ok cs ∧
        ∀ c ∈ cs, w.allows c.property = true := by
  rw [parse_eq_ok_iff_clauses, parse_eq_ok_iff_clauses]
  simp only [clauses_whitelist_iff]
  constructor
  · rintro ⟨cs, ⟨read, allowed⟩, made⟩
    exact ⟨⟨cs, read, made⟩, cs, read, allowed⟩
  · -- without the whitelist, there is one list of clauses only
    rintro ⟨⟨cs, read, made⟩, cs', read', allowed⟩
    obtain rfl := Except.ok.inj (read.symm.trans read')
    exact ⟨cs, ⟨read, allowed⟩, made⟩

/-- A filter is only accepted if each of its clauses is on a registered path. -/
theorem exists_resolve_of_parse {policy : Policy} {p : Predicate schema}
    (parsed : policy.parse schema filter = .ok p) :
    ∃ cs, policy.clauses filter = .ok cs ∧ ∀ c ∈ cs, ∃ r, schema.resolve c.property = .ok r := by
  obtain ⟨cs, read, terms, made, -⟩ := parse_eq_ok_iff_clauses.mp parsed
  refine ⟨cs, read, ?_⟩
  intro c member
  obtain ⟨term, -, made⟩ := exists_of_forall₂ (mapM_eq_ok_iff.mp made) c member
  obtain ⟨r, resolved, -⟩ := bind_eq_ok_iff.mp made
  exact ⟨r, resolved⟩

end Policy

/-! ## The whitelist of a schema -/

namespace Whitelist

variable {schema : Schema T} {path q : String}

/-- By induction on the paths: one after the other is allowed. -/
theorem allows_foldl_insert_iff {w : Whitelist} {paths : List String} :
    (paths.foldl insert w).allows q = true ↔
      w.allows q = true ∨ ∃ path ∈ paths, Path.normalize q = Path.normalize path := by
  induction paths generalizing w with
  | nil => simp
  | cons path rest ih =>
      rw [List.foldl_cons, ih, allows_insert_iff, List.exists_mem_cons_iff, or_assoc]

theorem allows_ofList_iff {paths : List String} :
    (ofList paths).allows q = true ↔
      ∃ path ∈ paths, Path.normalize q = Path.normalize path := by
  have nothing : empty.allows q = false := rfl
  rw [ofList, allows_foldl_insert_iff, nothing]
  simp

/-- The paths of the registered fields are allowed in all of their spellings. -/
theorem allows_ofSchema_iff :
    (ofSchema schema).allows path = true ↔ ∃ i f, schema.Spells path i f := by
  rw [ofSchema, allows_ofList_iff, Schema.paths]
  constructor
  · rintro ⟨_, member, same⟩
    obtain ⟨f, registered, rfl⟩ := List.mem_map.mp member
    obtain ⟨i, placed⟩ := List.mem_iff_getElem?.mp registered
    exact ⟨i, f, placed, same.symm⟩
  · rintro ⟨i, f, placed, same⟩
    exact ⟨f.path, List.mem_map_of_mem (List.mem_of_getElem? placed), same.symm⟩

theorem allows_ofSchema_eq_false_iff : (ofSchema schema).allows path = false ↔
    schema.resolve path = .error (.propertyNotFound path schema.entity) := by
  rw [Bool.eq_false_iff, ne_eq, allows_ofSchema_iff, Schema.resolve_eq_notFound_iff,
    Schema.positions_eq_empty_iff]
  simp only [not_exists]

/-- What is allowed is known to the schema, if only as ambiguous. -/
theorem allows_ofSchema_iff_known : (ofSchema schema).allows path = true ↔
    (∃ r, schema.resolve path = .ok r) ∨
      schema.resolve path = .error (.schema (.ambiguousPath path schema.entity)) := by
  rw [allows_ofSchema_iff]
  constructor
  · rintro ⟨i, f, spells⟩
    cases found : schema.resolve path with
    | ok r => exact .inl ⟨r, rfl⟩
    | error e =>
        rcases Schema.resolve_eq_error_iff.mp found with ⟨-, none⟩ | ⟨rfl, -⟩
        · exact absurd spells (none i f)
        · exact .inr rfl
  · rintro (⟨r, resolved⟩ | ambiguous)
    · obtain ⟨i, f, means, -⟩ := Schema.resolve_eq_ok_iff_means.mp resolved
      exact ⟨i, f, means.1⟩
    · obtain ⟨i, ⟨f, spells⟩, -⟩ := Schema.resolve_eq_ambiguous_iff.mp ambiguous
      exact ⟨i, f, spells⟩

/-- **Admission.** Under any limit on its clauses, a filter makes the same
predicate with a whitelist as without one, if the whitelist allows the path of
each of its clauses, and is refused otherwise. So no filter is lost, and none
changes, when the whitelist allows more. The whitelist of a schema's own fields
allows just the paths that are not unknown to the schema, and makes no
difference. -/
theorem only_restricts (schema : Schema T) (limit : Option Nat) (filter : String) :
    (∀ w p, Policy.parse { whitelist := some w, maxClauses := limit } schema filter = .ok p ↔
      Policy.parse { whitelist := none, maxClauses := limit } schema filter = .ok p ∧
      ∃ cs, Policy.clauses { whitelist := none, maxClauses := limit } filter = .ok cs ∧
        ∀ c ∈ cs, w.allows c.property = true) ∧
    (∀ w w' : Whitelist, (∀ path, w.allows path = true → w'.allows path = true) → ∀ p,
      Policy.parse { whitelist := some w, maxClauses := limit } schema filter = .ok p →
      Policy.parse { whitelist := some w', maxClauses := limit } schema filter = .ok p) ∧
    (∀ path, (ofSchema schema).allows path = false ↔
      schema.resolve path = .error (.propertyNotFound path schema.entity)) ∧
    (∀ path, (ofSchema schema).allows path = true ↔
      (∃ r, schema.resolve path = .ok r) ∨
        schema.resolve path = .error (.schema (.ambiguousPath path schema.entity))) ∧
    ∀ p, Policy.parse { whitelist := some (ofSchema schema), maxClauses := limit } schema filter =
        .ok p ↔
      Policy.parse { whitelist := none, maxClauses := limit } schema filter = .ok p := by
  refine ⟨?_, ?_, ?_, ?_, ?_⟩
  · intro w p
    exact Policy.parse_whitelist_iff
  · intro w w' more p parsed
    obtain ⟨parsed, cs, read, allowed⟩ := Policy.parse_whitelist_iff.mp parsed
    exact Policy.parse_whitelist_iff.mpr
      ⟨parsed, cs, read, fun c member => more _ (allowed c member)⟩
  · intro path
    exact allows_ofSchema_eq_false_iff
  · intro path
    exact allows_ofSchema_iff_known
  · intro p
    rw [Policy.parse_whitelist_iff]
    constructor
    · exact And.left
    · -- what the schema could compile, it has found
      intro parsed
      obtain ⟨cs, read, resolved⟩ := Policy.exists_resolve_of_parse parsed
      refine ⟨parsed, cs, read, ?_⟩
      intro c member
      exact allows_ofSchema_iff_known.mpr (.inl (resolved c member))

/-- A filter on the age is accepted when the age is allowed, and makes the same
predicate when the nickname is allowed as well. It is refused when the nickname
is allowed instead. The whitelist of the schema makes no difference to it, and
allows the age also where it is ambiguous. -/
theorem only_restricts_person :
    (∃ p, Policy.parse {} Person.schema "age|gt|17" = .ok p ∧
      Policy.parse { whitelist := some (ofList [" AGE "]) } Person.schema "age|gt|17" = .ok p ∧
      Policy.parse { whitelist := some ((ofList [" AGE "]).insert "nickname") } Person.schema
        "age|gt|17" = .ok p ∧
      Policy.parse { whitelist := some (ofSchema Person.schema) } Person.schema "age|gt|17" =
        .ok p) ∧
    (∀ p, Policy.parse { whitelist := some (ofList ["nickname"]) } Person.schema "age|gt|17" ≠
      .ok p) ∧
    (ofSchema Person.crowded).allows "aGe" = true := by
  obtain ⟨accepted, enlarged, -, -, own⟩ := only_restricts Person.schema none "age|gt|17"
  obtain ⟨p, parsed⟩ := exists_ok_of_isOk
    (x := Policy.parse {} Person.schema "age|gt|17") (by decide +kernel)
  have read : Policy.clauses {} "age|gt|17" =
      .ok [⟨"age", .greater, ["17"], by decide +kernel, rfl⟩] := by decide +kernel
  have allowed := (accepted (ofList [" AGE "]) p).mpr
    ⟨parsed, _, read, List.forall_mem_singleton.mpr (by decide +kernel)⟩
  refine ⟨⟨p, parsed, allowed, enlarged _ _ ?_ p allowed, (own p).mpr parsed⟩, ?_, ?_⟩
  · intro path known
    exact allows_insert_iff.mpr (.inl known)
  · intro p refused
    obtain ⟨-, cs, read', listed⟩ := (accepted _ p).mp refused
    obtain rfl := Except.ok.inj (read.symm.trans read')
    exact absurd (List.forall_mem_singleton.mp listed) (by decide +kernel)
  · obtain ⟨-, -, -, known, -⟩ := only_restricts Person.crowded none ""
    exact (known "aGe").mpr (.inr (by decide +kernel))

end Whitelist

end RecordFilter
