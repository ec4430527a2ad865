import RecordFilter.Error
import RecordFilter.Schema.Field
import RecordFilter.Schema.Index

/-!
# Schemas

A schema lists the fields of an entity in the order of registration. Nested
objects are flattened: the object itself is a field, for tests for null, and
every field of it follows under its path.
-/

namespace RecordFilter

/-- The fields of the records of type `T`, which make up an entity. -/
structure Schema (T : Type) where
  entity : String
  fields : List (Field T)

/-- A field as conditions refer to it: by its registered path and its position
in the schema, with its type. -/
structure FieldRef where
  path : String
  index : Nat
  type : ValueType
  nullable : Bool
deriving DecidableEq, Repr

namespace Schema

variable {T U : Type}

/-! ## Registration -/

/-- A schema without fields. -/
def empty (entity : String) : Schema T :=
  ⟨entity, []⟩

/-- Registers fields after those that there are. -/
def append (s : Schema T) (fields : List (Field T)) : Schema T :=
  { s with fields := s.fields ++ fields }

/-- Registers a field that always has a value. -/
def field (s : Schema T) (path : String) (type : ValueType) (read : T → type.Carrier) :
    Schema T :=
  s.append [.required path type read]

/-- Registers a field that may have no value. -/
def optionalField (s : Schema T) (path : String) (type : ValueType)
    (read : T → Option type.Carrier) : Schema T :=
  s.append [.optional path type read]

/-- Registers a nested object and its fields. -/
def nested (s : Schema T) (path : String) (get : T → U) (inner : Schema U) : Schema T :=
  s.append <|
    .required path (.object inner.entity) (fun _ => ()) ::
      inner.fields.map (.inside path get)

/-- Registers a nested object that may be missing, and its fields. -/
def optionalNested (s : Schema T) (path : String) (get : T → Option U) (inner : Schema U) :
    Schema T :=
  s.append <|
    .optional path (.object inner.entity) (fun record => (get record).map fun _ => ()) ::
      inner.fields.map (.insideOptional path get)

/-! ## Look-up -/

/-- The number of fields. -/
def size (s : Schema T) : Nat :=
  s.fields.length

/-- The registered paths in order. -/
def paths (s : Schema T) : List String :=
  s.fields.map Field.path

/-- The field at a position. -/
def fieldAt? (s : Schema T) (index : Nat) : Option (Field T) :=
  s.fields[index]?

/-- A reference to a field at a position. -/
def refTo (f : Field T) (index : Nat) : FieldRef :=
  ⟨f.path, index, f.type, f.nullable⟩

/-- The normal forms of the registered paths in order. -/
def keys (s : Schema T) : List String :=
  s.fields.map fun f => Path.normalize f.path

/-- The positions of the fields by the normal forms of their paths. -/
def index (s : Schema T) : Index :=
  .ofKeys s.keys

/-- The field at the position that the index has for a key. -/
def find? (s : Schema T) (key : String) : Option FieldRef :=
  (s.index.place? key).bind fun i => (s.fieldAt? i).map fun f => refTo f i

/-- The one field that a path means. All spellings of a path have one key. -/
def resolve (s : Schema T) (path : String) : Except FilterError FieldRef :=
  if s.index.isRepeated (Path.normalize path) then
    .error (.schema (.ambiguousPath path s.entity))
  else
    match s.find? (Path.normalize path) with
    | some r => .ok r
    | none => .error (.propertyNotFound path s.entity)

/-- Whether a reference is in scope: its path means the field at its position,
and the types agree. -/
def owns (s : Schema T) (r : FieldRef) : Bool :=
  match s.resolve r.path with
  | .ok found => found.index == r.index && found.type == r.type
  | .error _ => false

theorem getElem?_keys (s : Schema T) (i : Nat) :
    s.keys[i]? = (s.fieldAt? i).map fun f => Path.normalize f.path := by
  rw [keys, List.getElem?_map, fieldAt?]

theorem describes_index (s : Schema T) : s.index.Describes s.keys :=
  Index.describes_ofKeys s.keys

/-- What is found is a field whose path has the key that was looked for. -/
theorem exists_of_find? {s : Schema T} {key : String} {r : FieldRef} (h : s.find? key = some r) :
    ∃ i f, (s.fieldAt? i = some f ∧ Path.normalize f.path = key) ∧ r = refTo f i := by
  obtain ⟨i, place, h⟩ := Option.bind_eq_some_iff.mp h
  obtain ⟨f, placed, rfl⟩ := Option.map_eq_some_iff.mp h
  have here := (s.describes_index.last key i place).1
  rw [getElem?_keys, placed] at here
  exact ⟨i, f, ⟨placed, Option.some.inj here⟩, rfl⟩

theorem resolve_eq_ok_iff_find? {s : Schema T} {path : String} {r : FieldRef} :
    s.resolve path = .ok r ↔
      s.index.isRepeated (Path.normalize path) = false ∧ s.find? (Path.normalize path) = some r := by
  unfold resolve
  split
  · simp_all
  · split <;> simp_all

/-- What a path resolves to is found again by its own path. -/
theorem resolve_path {s : Schema T} {path : String} {r : FieldRef}
    (h : s.resolve path = .ok r) : s.resolve r.path = .ok r := by
  rw [resolve_eq_ok_iff_find?] at h ⊢
  obtain ⟨i, f, ⟨-, spelled⟩, rfl⟩ := exists_of_find? h.2
  show s.index.isRepeated (Path.normalize f.path) = false ∧
    s.find? (Path.normalize f.path) = some (refTo f i)
  rwa [spelled]

theorem owns_of_resolve {s : Schema T} {path : String} {r : FieldRef}
    (h : s.resolve path = .ok r) : s.owns r := by
  simp [owns, resolve_path h]

end Schema

end RecordFilter
