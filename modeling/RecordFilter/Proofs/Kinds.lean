import RecordFilter.Literal
import RecordFilter.Schema.Field

/-!
# Kinds of values

To every type belongs a kind of values. What is read from a field of the type
and what is read from a literal for it is of this kind, so that the two can be
compared: values of one kind are ordered against each other, unless one of them
is a floating point number that is none.
-/

namespace RecordFilter

open Number Literal

variable {T : Type}

/-- The kinds of values. -/
inductive ValueKind
  | null | bool | int | uint | float | text | dateTime | date | uuid | enum | object
deriving DecidableEq, Repr

/-- The kind of a value. -/
def Value.kind : Value → ValueKind
  | .null => .null
  | .bool _ => .bool
  | .int _ => .int
  | .uint _ => .uint
  | .float _ => .float
  | .text _ => .text
  | .dateTime _ => .dateTime
  | .date _ => .date
  | .uuid _ => .uuid
  | .enum _ => .enum
  | .object => .object

/-- The kind of values that belongs to a type. -/
def ValueType.kind : ValueType → ValueKind
  | .int t => if t.signed then .int else .uint
  | .float _ => .float
  | .bool => .bool
  | .text => .text
  | .dateTime => .dateTime
  | .date => .date
  | .uuid => .uuid
  | .enum _ _ => .enum
  | .object _ => .object

theorem ValueType.kind_value (t : ValueType) (x : t.Carrier) : (t.value x).kind = t.kind := by
  cases t with
  | int t =>
      show (if t.signed then Value.int x.val else Value.uint x.val.toNat).kind =
        if t.signed then ValueKind.int else ValueKind.uint
      cases t.signed <;> rfl
  | float precision => cases precision <;> rfl
  | _ => rfl

theorem ValueType.kind_ne_null (t : ValueType) : t.kind ≠ .null := by
  cases t with
  | int t => cases signed : t.signed <;> simp [kind, signed]
  | _ => simp [kind]

/-! ## Fields -/

/-- A field has a value of its kind, or none if it is nullable. -/
theorem Field.value_cases (f : Field T) (record : T) :
    (f.value record = .null ∧ f.nullable = true) ∨ (f.value record).kind = f.type.kind := by
  obtain ⟨path, type, nullable, read⟩ := f
  cases nullable with
  | false => exact .inr (type.kind_value (read record))
  | true =>
      cases found : read record with
      | none =>
          refine .inl ⟨?_, rfl⟩
          show @ValueType.Reading.value type true (read record) = .null
          rw [found]
          rfl
      | some x =>
          refine .inr ?_
          show (@ValueType.Reading.value type true (read record)).kind = type.kind
          rw [found]
          exact type.kind_value x

theorem Field.kind_value_of_ne_null {f : Field T} {record : T} (some : f.value record ≠ .null) :
    (f.value record).kind = f.type.kind :=
  (f.value_cases record).elim (fun missing => absurd missing.1 some) id

theorem Field.value_ne_null {f : Field T} (required : f.nullable = false) (record : T) :
    f.value record ≠ .null := by
  intro missing
  rcases f.value_cases record with ⟨-, nullable⟩ | kind
  · rw [required] at nullable
    cases nullable
  · rw [missing] at kind
    exact f.type.kind_ne_null kind.symm

/-! ## Constants -/

/-- The values that can stand for a literal of the type. The position of a
variant is one of the list, and objects have no literals. -/
inductive ValueType.HasConstant : ValueType → Value → Prop
  | int {width : IntWidth} {n : Int} : -(Nat.pow 2 (width.bits - 1) : Int) ≤ n →
      n < Nat.pow 2 (width.bits - 1) → HasConstant (.int ⟨true, width⟩) (.int n)
  | uint {width : IntWidth} {n : Nat} : n < Nat.pow 2 width.bits →
      HasConstant (.int ⟨false, width⟩) (.uint n)
  | single (x : Float32) : HasConstant (.float .single) (.float x.toFloat)
  | double (x : Float) : HasConstant (.float .double) (.float x)
  | bool (b : Bool) : HasConstant .bool (.bool b)
  | text (s : String) : HasConstant .text (.text s)
  | dateTime (t : Calendar.DateTime) : HasConstant .dateTime (.dateTime t)
  | date (d : Calendar.Date) : HasConstant .date (.date d)
  | uuid (u : Uuid) : HasConstant .uuid (.uuid u)
  | enum {name : String} {variants : List String} {index : Nat} : index < variants.length →
      HasConstant (.enum name variants) (.enum index)

theorem ValueType.HasConstant.kind_eq {t : ValueType} {v : Value} (h : t.HasConstant v) :
    v.kind = t.kind := by
  cases h <;> rfl

theorem ValueType.HasConstant.kind_ne_object {t : ValueType} {v : Value} (h : t.HasConstant v) :
    v.kind ≠ .object := by
  cases h <;> simp [Value.kind]

/-- The numbers of an integer type fit into its width. -/
theorem ValueType.hasConstant_int (t : IntType) (n : t.Carrier) :
    HasConstant (.int t) (value (.int t) n) := by
  obtain ⟨signed, width⟩ := t
  obtain ⟨low, high⟩ := n.property
  cases signed with
  | true =>
      have positive : 0 < Nat.pow 2 (width.bits - 1) := Nat.two_pow_pos _
      have upper : IntType.upper ⟨true, width⟩ = Nat.pow 2 (width.bits - 1) - 1 := rfl
      refine .int low ?_
      show n.val < _
      omega
  | false =>
      have positive : 0 < Nat.pow 2 width.bits := Nat.two_pow_pos _
      have depth : IntType.depth ⟨false, width⟩ = 0 := rfl
      have upper : IntType.upper ⟨false, width⟩ = Nat.pow 2 width.bits - 1 := rfl
      refine .uint ?_
      show n.val.toNat < _
      omega

/-- The position that is read is that of a variant. A record may hold others. -/
theorem Literal.lt_length_of_read {name : String} {variants : List String} {literal : String}
    {index : Nat} (h : read (.enum name variants) literal = .ok index) :
    index < variants.length := by
  have inversion : findVariant? variants (Text.trim literal) = some index := by
    unfold read at h
    by_cases empty : Text.trim literal = ""
    · simp [empty] at h
    · simp only [if_neg empty] at h
      split at h
      · rename_i found
        cases h
        exact found
      · cases h
  exact (List.findIdx?_eq_some_iff_findIdx_eq.mp inversion).1

theorem Literal.read_object (entity literal : String) (x : (ValueType.object entity).Carrier) :
    read (.object entity) literal ≠ .ok x := by
  unfold read
  by_cases empty : Text.trim literal = "" <;> simp [empty]

/-- A literal is read as a value that can stand for it. -/
theorem Literal.hasConstant_of_read {t : ValueType} {literal : String} {x : t.Carrier}
    (h : read t literal = .ok x) : t.HasConstant (t.value x) := by
  cases t with
  | int t => exact ValueType.hasConstant_int t x
  | float precision =>
      cases precision with
      | single => exact .single x
      | double => exact .double x
  | bool => exact .bool x
  | text => exact .text x
  | dateTime => exact .dateTime x
  | date => exact .date x
  | uuid => exact .uuid x
  | enum name variants => exact .enum (lt_length_of_read h)
  | object entity => exact absurd h (read_object entity literal x)

/-- A literal stands for a value of the kind of its type. -/
theorem Literal.hasConstant_of_constant {t : ValueType} {literal : String} {v : Value}
    (h : constant t literal = .ok v) : t.HasConstant v := by
  unfold constant at h
  split at h
  · rename_i x read
    cases h
    exact hasConstant_of_read read
  · cases h

/-! ## Order within a kind -/

/-- Whether the value is a floating point number that is none. -/
def Value.isNaN : Value → Bool
  | .float x => x.isNaN
  | _ => false

section FloatOrder

open Float.Model

theorem unpacked_compare_swap (x y : UnpackedFloat) :
    y.compare x = (x.compare y).map Ordering.swap := by
  have parts (e e' : Int) (m m' : Nat) : (compare e' e).then (compare m' m) =
      ((compare e e').then (compare m m')).swap := by
    rw [Ordering.swap_then, Int.compare_swap, Nat.compare_swap]
  rcases x with (_ | _) | _ | _ | ⟨_ | _, _, _, _⟩ <;>
    rcases y with (_ | _) | _ | _ | ⟨_ | _, _, _, _⟩ <;>
    first
    | rfl
    | exact congrArg some (parts _ _ _ _)
    -- of two negative numbers, the one with the smaller parts is the greater one
    | exact congrArg (fun o => some o.swap) (parts _ _ _ _)

theorem unpacked_compare_eq_none_iff (x y : UnpackedFloat) :
    x.compare y = none ↔ x.isNaN = true ∨ y.isNaN = true := by
  rcases x with (_ | _) | _ | _ | ⟨_ | _, _, _, _⟩ <;>
    rcases y with (_ | _) | _ | _ | ⟨_ | _, _, _, _⟩ <;>
    first
    | exact iff_of_true rfl (.inl rfl)
    | exact iff_of_true rfl (.inr rfl)
    | exact iff_of_false nofun (by rintro (h | h) <;> cases h)

theorem float_lt_iff {x y : Float} :
    x < y ↔ x.toModel.unpack.compare y.toModel.unpack = some .lt := by
  show decide ((x.toModel.unpack.compare y.toModel.unpack == some .lt) = true) = true ↔ _
  rw [decide_eq_true_iff, beq_iff_eq]

theorem float_beq_iff {x y : Float} :
    (x == y) = true ↔ x.toModel.unpack.compare y.toModel.unpack = some .eq := by
  show (x.toModel.unpack.compare y.toModel.unpack == some .eq) = true ↔ _
  rw [beq_iff_eq]

/-- The order of floating point numbers is that of what they stand for. -/
theorem compareFloat?_eq (x y : Float) :
    compareFloat? x y = x.toModel.unpack.compare y.toModel.unpack := by
  unfold compareFloat?
  -- all three tests read the same comparison, the last one from the other side
  simp only [float_lt_iff, float_beq_iff, unpacked_compare_swap x.toModel.unpack y.toModel.unpack]
  cases x.toModel.unpack.compare y.toModel.unpack with
  | none => simp
  | some o => cases o <;> simp

end FloatOrder

/-- Of two numbers one is less than the other or both are equal; what is no
number has no place in the order. -/
theorem compareFloat?_eq_none_iff {x y : Float} :
    compareFloat? x y = none ↔ x.isNaN = true ∨ y.isNaN = true := by
  rw [compareFloat?_eq]
  exact unpacked_compare_eq_none_iff x.toModel.unpack y.toModel.unpack

/-- Values of one kind are ordered, but for objects, the absence of a value, and
numbers that are none. -/
theorem Value.compare?_eq_none_iff {v w : Value} (same : v.kind = w.kind) (some : v ≠ .null)
    (plain : w.kind ≠ .object) :
    v.compare? w = none ↔ v.isNaN = true ∨ w.isNaN = true := by
  cases v <;> cases w <;> simp_all [kind, compare?, isNaN, compareFloat?_eq_none_iff]

end RecordFilter
