import RecordFilter.Schema.Path
import RecordFilter.Value

/-!
# Fields

A field of a record has a path, a declared type and a way to be read. Only a
nullable field may have no value.
-/

namespace RecordFilter

/-- What is read from a field: a member of the type's carrier, or none if the
field is nullable. -/
def ValueType.Reading (t : ValueType) : (nullable : Bool) → Type
  | false => t.Carrier
  | true => Option t.Carrier

namespace ValueType.Reading

variable {t : ValueType}

/-- Forgets that a value is always present. -/
def toOption : {nullable : Bool} → t.Reading nullable → Option t.Carrier
  | false, x => some x
  | true, x => x

/-- What is read, as a value; null if there is none. -/
def value {nullable : Bool} (x : t.Reading nullable) : Value :=
  match x.toOption with
  | some x => t.value x
  | none => .null

end ValueType.Reading

/-- A field of records of type `T`. -/
structure Field (T : Type) where
  path : String
  type : ValueType
  nullable : Bool
  read : T → type.Reading nullable

namespace Field

variable {T U : Type}

/-- The value of the field in a record. -/
def value (f : Field T) (record : T) : Value :=
  (f.read record).value

/-- A field that always has a value. -/
def required (path : String) (type : ValueType) (read : T → type.Carrier) : Field T :=
  ⟨path, type, false, read⟩

/-- A field that may have no value. -/
def optional (path : String) (type : ValueType) (read : T → Option type.Carrier) : Field T :=
  ⟨path, type, true, read⟩

/-- The field of a nested object as a field of the record around it. -/
def inside (object : String) (get : T → U) (f : Field U) : Field T :=
  ⟨Path.member object f.path, f.type, f.nullable, fun record => f.read (get record)⟩

/-- The field of a nested object that may be missing. Without the object there
is no value. -/
def insideOptional (object : String) (get : T → Option U) (f : Field U) : Field T :=
  optional (Path.member object f.path) f.type fun record =>
    (get record).bind fun inner => (f.read inner).toOption

end Field

end RecordFilter
