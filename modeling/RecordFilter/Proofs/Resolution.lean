import Mathlib.Data.List.Pairwise
import RecordFilter.Schema

/-!
# Resolution of paths

The look-up of a path, said of the registered fields: a path resolves to the
field that is registered by a spelling of it, if there is exactly one. No field
makes it unknown, and two or more make it ambiguous.
-/

namespace RecordFilter

variable {T : Type}

namespace Schema

variable {s : Schema T} {path : String}

/-- The field at the position is registered by a spelling of the path. -/
def Spells (s : Schema T) (path : String) (i : Nat) (f : Field T) : Prop :=
  s.fieldAt? i = some f ∧ Path.normalize f.path = Path.normalize path

/-- The field at the position, and no other, is registered by a spelling of the
path. -/
def Means (s : Schema T) (path : String) (i : Nat) (f : Field T) : Prop :=
  s.Spells path i f ∧ ∀ j g, s.Spells path j g → j = i

/-! ## The index -/

theorem keys_eq_some_iff {i : Nat} :
    s.keys[i]? = some (Path.normalize path) ↔ ∃ f, s.Spells path i f := by
  rw [getElem?_keys, Option.map_eq_some_iff]
  rfl

/-- The index has no place for a path exactly if no field is registered by it. -/
theorem find?_eq_none_iff : s.find? (Path.normalize path) = none ↔ ∀ i f, ¬ s.Spells path i f := by
  constructor
  · intro missing i f spells
    obtain ⟨j, place⟩ := Option.isSome_iff_exists.mp
      (s.describes_index.found _ i (keys_eq_some_iff.mpr ⟨f, spells⟩))
    obtain ⟨g, placed, -⟩ := keys_eq_some_iff.mp (s.describes_index.last _ j place).1
    simp [find?, place, placed] at missing
  · intro none
    cases place : s.index.place? (Path.normalize path) with
    | none => simp [find?, place]
    | some j =>
        obtain ⟨g, spells⟩ := keys_eq_some_iff.mp (s.describes_index.last _ j place).1
        exact absurd spells (none j g)

/-- The index says that a path is repeated exactly if two fields are registered
by spellings of it. -/
theorem isRepeated_iff : s.index.isRepeated (Path.normalize path) = true ↔
    ∃ i f j g, i ≠ j ∧ s.Spells path i f ∧ s.Spells path j g := by
  rw [s.describes_index.repeated]
  simp only [keys_eq_some_iff]
  constructor
  · rintro ⟨i, j, less, ⟨f, here⟩, ⟨g, there⟩⟩
    exact ⟨i, f, j, g, Nat.ne_of_lt less, here, there⟩
  · rintro ⟨i, f, j, g, distinct, here, there⟩
    rcases Nat.lt_or_gt_of_ne distinct with less | less
    · exact ⟨i, j, less, ⟨f, here⟩, ⟨g, there⟩⟩
    · exact ⟨j, i, less, ⟨g, there⟩, ⟨f, here⟩⟩

/-! ## The three outcomes -/

/-- A path resolves to the only field that it can mean. -/
theorem resolve_eq_ok_iff_means {r : FieldRef} :
    s.resolve path = .ok r ↔ ∃ i f, s.Means path i f ∧ r = refTo f i := by
  rw [resolve_eq_ok_iff_find?, Bool.eq_false_iff, ne_eq, isRepeated_iff]
  constructor
  · rintro ⟨once, found⟩
    obtain ⟨i, f, spells, rfl⟩ := exists_of_find? found
    refine ⟨i, f, ⟨spells, ?_⟩, rfl⟩
    intro j g other
    by_contra distinct
    exact once ⟨j, g, i, f, distinct, other, spells⟩
  · rintro ⟨i, f, ⟨spells, unique⟩, rfl⟩
    constructor
    · rintro ⟨j, g, k, h, distinct, here, there⟩
      exact distinct ((unique j g here).trans (unique k h there).symm)
    · cases found : s.find? (Path.normalize path) with
      | none => exact absurd spells (find?_eq_none_iff.mp found i f)
      | some r =>
          obtain ⟨j, g, other, rfl⟩ := exists_of_find? found
          obtain rfl := unique j g other
          obtain rfl := Option.some.inj (spells.1.symm.trans other.1)
          rfl

/-- A path that does not resolve is unknown or ambiguous, and the error carries
it as it was given. -/
theorem resolve_eq_error_iff {e : FilterError} :
    s.resolve path = .error e ↔
      (e = .propertyNotFound path s.entity ∧ ∀ i f, ¬ s.Spells path i f) ∨
      (e = .schema (.ambiguousPath path s.entity) ∧
        ∃ i f j g, i ≠ j ∧ s.Spells path i f ∧ s.Spells path j g) := by
  rw [← find?_eq_none_iff, ← isRepeated_iff, resolve]
  split
  · -- a path that is repeated is registered
    rename_i twice
    have known : s.find? (Path.normalize path) ≠ none := by
      rw [ne_eq, find?_eq_none_iff]
      obtain ⟨i, f, -, -, -, here, -⟩ := isRepeated_iff.mp twice
      exact fun none => none i f here
    simp [twice, known, eq_comm]
  · rename_i once
    split
    · rename_i r found
      simp [once, found]
    · rename_i found
      simp [once, found, eq_comm]

/-! ## Candidates -/

/-- The fields that a path may mean: those whose paths are spellings of it. -/
def candidates (s : Schema T) (path : String) : List FieldRef :=
  (s.fields.zipIdx.filter fun (f, _) => Path.normalize f.path = Path.normalize path).map
    fun (f, index) => refTo f index

/-- A path only counts by its normal form. -/
theorem candidates_congr (s : Schema T) {p q : String}
    (h : Path.normalize p = Path.normalize q) : s.candidates p = s.candidates q := by
  simp [candidates, h]

theorem mem_candidates_iff {r : FieldRef} :
    r ∈ s.candidates path ↔ ∃ i f, s.Spells path i f ∧ r = refTo f i := by
  unfold candidates Spells fieldAt?
  rw [List.mem_map]
  constructor
  · rintro ⟨⟨f, i⟩, member, rfl⟩
    rw [List.mem_filter, List.mk_mem_zipIdx_iff_getElem?, decide_eq_true_iff] at member
    exact ⟨i, f, member, rfl⟩
  · rintro ⟨i, f, spells, rfl⟩
    refine ⟨(f, i), ?_, rfl⟩
    rw [List.mem_filter, List.mk_mem_zipIdx_iff_getElem?, decide_eq_true_iff]
    exact spells

/-- Candidates come in the order of their positions, so none comes twice. -/
theorem pairwise_candidates (s : Schema T) (path : String) :
    (s.candidates path).Pairwise (·.index < ·.index) := by
  have positions : s.fields.zipIdx.Pairwise (·.2 < ·.2) := by
    rw [← List.pairwise_map (f := Prod.snd), List.zipIdx_map_snd]
    exact List.pairwise_lt_range'
  unfold candidates
  rw [List.pairwise_map]
  exact positions.filter _

theorem candidates_eq_singleton_iff {r : FieldRef} :
    s.candidates path = [r] ↔ ∃ i f, s.Means path i f ∧ r = refTo f i := by
  constructor
  · intro only
    obtain ⟨i, f, spells, rfl⟩ := mem_candidates_iff.mp (only ▸ List.mem_singleton.mpr rfl)
    refine ⟨i, f, ⟨spells, ?_⟩, rfl⟩
    intro j g other
    have member := mem_candidates_iff.mpr ⟨j, g, other, rfl⟩
    rw [only, List.mem_singleton] at member
    exact congrArg FieldRef.index member
  · rintro ⟨i, f, ⟨spells, unique⟩, rfl⟩
    have ordered := pairwise_candidates s path
    have member := mem_candidates_iff.mpr ⟨i, f, spells, rfl⟩
    have same : ∀ r ∈ s.candidates path, r.index = i := by
      intro r hr
      obtain ⟨j, g, other, rfl⟩ := mem_candidates_iff.mp hr
      exact unique j g other
    cases found : s.candidates path with
    | nil => rw [found] at member; cases member
    | cons first rest =>
        rw [found] at member same ordered
        cases rest with
        | nil => rw [List.mem_singleton.mp member]
        | cons second more =>
            -- two candidates would stand at one position
            have less := (List.pairwise_cons.mp ordered).1 second List.mem_cons_self
            rw [same first (by simp), same second (by simp)] at less
            exact absurd less (Nat.lt_irrefl i)

/-- A path resolves to its only candidate. -/
theorem resolve_eq_ok_iff {r : FieldRef} : s.resolve path = .ok r ↔ s.candidates path = [r] := by
  rw [resolve_eq_ok_iff_means, candidates_eq_singleton_iff]

end Schema

/-! ## A schema for examples -/

/-- A record for examples. -/
structure Person where
  age : Number.IntType.Carrier ⟨true, .w32⟩
  nickname : Option String
  city : String

/-- Persons by age, nickname and address, which is an object of its own. -/
def Person.schema : Schema Person :=
  (((Schema.empty "Person").field "Age" (.int ⟨true, .w32⟩) Person.age).optionalField
    "Nickname" .text Person.nickname).nested
      "Address" Person.city ((Schema.empty "Address").field "City" .text id)

example : (Person.schema.resolve " address . CITY").toOption =
    some ⟨"Address.City", 3, .text, false⟩ := by
  decide +kernel

end RecordFilter
