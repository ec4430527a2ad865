import Mathlib.Data.Set.Subsingleton
import RecordFilter.Proofs.Resolution

/-!
# Registration

Whatever is registered in a schema, in whatever order and however many paths
collide, the index that is built of it answers for every path exactly what the
registered fields say. Registration only adds fields behind those that there
are, so a path is not affected by what is registered under other paths.
-/

namespace RecordFilter

variable {T : Type}

namespace Schema

variable {s t : Schema T} {path : String} {i : Nat} {f : Field T}

/-! ## Further registrations -/

/-- The second schema comes of the first one by registrations, of which there
may be any number in any order. -/
inductive Extends (s : Schema T) : Schema T → Prop
  | refl : Extends s s
  | field {t : Schema T} (path : String) (type : ValueType) (read : T → type.Carrier) :
      Extends s t → Extends s (t.field path type read)
  | optionalField {t : Schema T} (path : String) (type : ValueType)
      (read : T → Option type.Carrier) : Extends s t → Extends s (t.optionalField path type read)
  | nested {t : Schema T} {U : Type} (path : String) (get : T → U) (inner : Schema U) :
      Extends s t → Extends s (t.nested path get inner)
  | optionalNested {t : Schema T} {U : Type} (path : String) (get : T → Option U)
      (inner : Schema U) : Extends s t → Extends s (t.optionalNested path get inner)

theorem append_append (s : Schema T) (first second : List (Field T)) :
    (s.append first).append second = s.append (first ++ second) := by
  simp [append]

/-- Every registration adds its fields at the end. -/
theorem Extends.exists_append (h : s.Extends t) : ∃ more, t = s.append more := by
  induction h with
  | refl => exact ⟨[], by simp [append]⟩
  | field _ _ _ _ ih | optionalField _ _ _ _ ih | nested _ _ _ _ ih | optionalNested _ _ _ _ ih =>
      obtain ⟨more, rfl⟩ := ih
      exact ⟨_, append_append s more _⟩

theorem fieldAt?_append (s : Schema T) (more : List (Field T)) (i : Nat) :
    (s.append more).fieldAt? i = if i < s.size then s.fieldAt? i else more[i - s.size]? := by
  show (s.fields ++ more)[i]? = _
  rw [List.getElem?_append]
  rfl

/-- A field stays where it is. -/
theorem Extends.fieldAt? (h : s.Extends t) (known : i < s.size) : t.fieldAt? i = s.fieldAt? i := by
  obtain ⟨more, rfl⟩ := h.exists_append
  rw [fieldAt?_append, if_pos known]

theorem Extends.entity (h : s.Extends t) : t.entity = s.entity := by
  obtain ⟨more, rfl⟩ := h.exists_append
  rfl

theorem lt_size_of_fieldAt? (h : s.fieldAt? i = some f) : i < s.size :=
  (List.getElem?_eq_some_iff.mp h).1

theorem exists_fieldAt? (known : i < s.size) : ∃ f, s.fieldAt? i = some f :=
  ⟨_, List.getElem?_eq_getElem known⟩

/-! ## The positions of a path -/

/-- The positions of the fields that are registered by spellings of a path. -/
def positions (s : Schema T) (path : String) : Set Nat :=
  {i | ∃ f, s.Spells path i f}

/-- One position is that of the field that the path means. -/
theorem means_iff : s.Means path i f ↔ s.positions path = {i} ∧ s.fieldAt? i = some f := by
  constructor
  · rintro ⟨spells, unique⟩
    refine ⟨?_, spells.1⟩
    ext j
    constructor
    · rintro ⟨g, other⟩
      exact unique j g other
    · rintro rfl
      exact ⟨f, spells⟩
  · rintro ⟨only, placed⟩
    have here : i ∈ s.positions path := by simp [only]
    obtain ⟨g, spells⟩ := here
    obtain rfl := Option.some.inj (placed.symm.trans spells.1)
    refine ⟨spells, ?_⟩
    intro j g other
    have there : j ∈ s.positions path := ⟨g, other⟩
    simpa [only] using there

theorem positions_eq_empty_iff : s.positions path = ∅ ↔ ∀ i f, ¬ s.Spells path i f := by
  simp [positions, Set.eq_empty_iff_forall_notMem]

theorem nontrivial_positions_iff : (s.positions path).Nontrivial ↔
    ∃ i f j g, i ≠ j ∧ s.Spells path i f ∧ s.Spells path j g := by
  constructor
  · rintro ⟨i, ⟨f, here⟩, j, ⟨g, there⟩, distinct⟩
    exact ⟨i, f, j, g, distinct, here, there⟩
  · rintro ⟨i, f, j, g, distinct, here, there⟩
    exact ⟨i, ⟨f, here⟩, j, ⟨g, there⟩, distinct⟩

/-! ## Look-up -/

theorem resolve_eq_ok_iff_positions {r : FieldRef} : s.resolve path = .ok r ↔
    ∃ i f, s.positions path = {i} ∧ s.fieldAt? i = some f ∧ r = refTo f i := by
  simp only [resolve_eq_ok_iff_means, means_iff, and_assoc]

theorem resolve_eq_ambiguous_iff :
    s.resolve path = .error (.schema (.ambiguousPath path s.entity)) ↔
      (s.positions path).Nontrivial := by
  rw [nontrivial_positions_iff, resolve_eq_error_iff]
  simp

theorem resolve_eq_notFound_iff :
    s.resolve path = .error (.propertyNotFound path s.entity) ↔ s.positions path = ∅ := by
  rw [positions_eq_empty_iff, resolve_eq_error_iff]
  simp

/-- The look-up of a path depends on the fields that are registered by it, and
on no others. -/
theorem resolve_congr (entity : t.entity = s.entity)
    (same : ∀ i f, t.Spells path i f ↔ s.Spells path i f) : t.resolve path = s.resolve path := by
  -- success and failure are both told by the fields of this path
  have means : ∀ i f, t.Means path i f ↔ s.Means path i f := by
    intro i f
    simp only [Means, same]
  cases found : s.resolve path with
  | ok r =>
      rw [resolve_eq_ok_iff_means] at found ⊢
      simpa only [means] using found
  | error e =>
      rw [resolve_eq_error_iff] at found ⊢
      simpa only [same, entity] using found

/-- What is registered later under other paths does not matter. -/
theorem Extends.resolve (h : s.Extends t) (other : ∀ i f, t.Spells path i f → i < s.size) :
    t.resolve path = s.resolve path := by
  refine resolve_congr h.entity ?_
  intro i f
  constructor
  · intro spells
    exact ⟨(h.fieldAt? (other i f spells)).symm.trans spells.1, spells.2⟩
  · intro spells
    exact ⟨(h.fieldAt? (lt_size_of_fieldAt? spells.1)).trans spells.1, spells.2⟩

/-- **Exact resolution.** A path resolves to the field at its position if it has
one position only, is ambiguous if it has several, and is unknown if it has
none; the errors carry it as it was given. So whatever else is registered, be it
before, in between or later, and however other paths collide, the result is the
same, and a position that is found is one of the schema's. -/
theorem resolve_exact (s : Schema T) (path : String) :
    (∀ r, s.resolve path = .ok r ↔
      ∃ i f, s.positions path = {i} ∧ s.fieldAt? i = some f ∧ r = refTo f i) ∧
    (s.resolve path = .error (.schema (.ambiguousPath path s.entity)) ↔
      (s.positions path).Nontrivial) ∧
    (s.resolve path = .error (.propertyNotFound path s.entity) ↔ s.positions path = ∅) ∧
    (∀ r, s.resolve path = .ok r → r.index < s.size) ∧
    (∀ t : Schema T, t.entity = s.entity → (∀ i f, t.Spells path i f ↔ s.Spells path i f) →
      t.resolve path = s.resolve path) ∧
    ∀ t, s.Extends t → (∀ i f, t.Spells path i f → i < s.size) →
      t.resolve path = s.resolve path := by
  refine ⟨?_, resolve_eq_ambiguous_iff, resolve_eq_notFound_iff, ?_, ?_, ?_⟩
  · intro r
    exact resolve_eq_ok_iff_positions
  · intro r resolved
    obtain ⟨i, f, -, placed, rfl⟩ := resolve_eq_ok_iff_positions.mp resolved
    exact lt_size_of_fieldAt? placed
  · intro t entity same
    exact resolve_congr entity same
  · intro t extended other
    exact extended.resolve other

end Schema

/-- Persons with two more fields for the age, and a city that is not in an
address but is spelled as if it were. -/
def Person.crowded : Schema Person :=
  ((Person.schema.field "AGE" .text Person.city).field " age" .text Person.city).field
    "address . City" .text Person.city

theorem Person.extends_crowded : Person.schema.Extends crowded :=
  .field _ _ _ (.field _ _ _ (.field _ _ _ .refl))

/-- The age is ambiguous, and so is the city, of which one spelling is a nested
member. The nickname means what it meant without them. -/
theorem Schema.resolve_exact_person :
    Person.crowded.resolve "aGe" = .error (.schema (.ambiguousPath "aGe" "Person")) ∧
    Person.crowded.resolve "address.city" =
      .error (.schema (.ambiguousPath "address.city" "Person")) ∧
    Person.crowded.resolve "Nickname" = Person.schema.resolve "Nickname" := by
  refine ⟨(Schema.resolve_exact Person.crowded "aGe").2.1.mpr ?_,
    (Schema.resolve_exact Person.crowded "address.city").2.1.mpr ?_,
    (Schema.resolve_exact Person.schema "Nickname").2.2.2.2.2 _ Person.extends_crowded ?_⟩
  · exact ⟨0, ⟨_, rfl, by decide +kernel⟩, 5, ⟨_, rfl, by decide +kernel⟩, by decide⟩
  · exact ⟨3, ⟨_, rfl, by decide +kernel⟩, 6, ⟨_, rfl, by decide +kernel⟩, by decide⟩
  · intro i f spells
    have only : Person.crowded.candidates "Nickname" = [⟨"Nickname", 1, .text, true⟩] := by
      decide +kernel
    have member := Schema.mem_candidates_iff.mpr ⟨i, f, spells, rfl⟩
    rw [only, List.mem_singleton] at member
    obtain rfl : i = 1 := congrArg FieldRef.index member
    decide

end RecordFilter
