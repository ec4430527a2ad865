import RecordFilter.Proofs.Evaluation
import RecordFilter.Proofs.Registration

/-!
# Nested objects

A nested object is flattened into the schema around it: its fields come one
after the other behind a field for the object itself, under its path. A
condition on the object is then a condition on the record around it, with every
reference moved by the same number of positions. This holds at any depth; where
an optional object on the way is missing, all values inside it are missing too.
-/

namespace RecordFilter

variable {S T U : Type}

/-! ## Conditions moved to other positions -/

namespace Condition

mutual

/-- The condition with all references moved to later positions. -/
def shift (offset : Nat) : Condition → Condition
  | .always => .always
  | .compare r op value => .compare { r with index := r.index + offset } op value
  | .text r op pattern => .text { r with index := r.index + offset } op pattern
  | .null r negated => .null { r with index := r.index + offset } negated
  | .all terms => .all (shiftAll offset terms)
  | .any terms => .any (shiftAll offset terms)

/-- All conditions of the list, moved to later positions. -/
def shiftAll (offset : Nat) : List Condition → List Condition
  | [] => []
  | c :: rest => c.shift offset :: shiftAll offset rest

end

/-- All references are to positions below the bound. -/
def Below (bound : Nat) (c : Condition) : Prop :=
  ∀ r ∈ c.references, r.index < bound

end Condition

namespace Schema

/-- The value in a record of the field at a position. -/
def valueAt? (s : Schema T) (record : T) (i : Nat) : Option Value :=
  (s.fieldAt? i).map fun f => f.value record

end Schema

namespace Condition

section Shift

variable {outer : Schema T} {inner : Schema U} {record : T} {part : U} {offset : Nat}

/-- The fields that are referred to have the same values as those that stand a
number of positions behind them in another schema. -/
def Mirrored (outer : Schema T) (record : T) (offset : Nat) (inner : Schema U) (part : U)
    (refs : List FieldRef) : Prop :=
  ∀ r ∈ refs, outer.valueAt? record (r.index + offset) = inner.valueAt? part r.index

/-- A test has the same outcome on fields with the same value. -/
private theorem leaf_shift {i j : Nat} (same : outer.valueAt? record i = inner.valueAt? part j)
    (test : Value → Bool) :
    (match outer.fieldAt? i with
      | some f => test (f.value record)
      | none => false) =
    (match inner.fieldAt? j with
      | some g => test (g.value part)
      | none => false) := by
  unfold Schema.valueAt? at same
  -- there is a field in both schemas or in neither
  cases here : outer.fieldAt? i with
  | none =>
      cases there : inner.fieldAt? j with
      | none => rfl
      | some g => simp [here, there] at same
  | some f =>
      cases there : inner.fieldAt? j with
      | none => simp [here, there] at same
      | some g =>
          have value : f.value record = g.value part := by simpa [here, there] using same
          exact congrArg test value

mutual

/-- By induction on the tree: a condition that is moved to fields with the same
values remains as true as it was. -/
theorem holds_shift : ∀ c : Condition,
    Mirrored outer record offset inner part c.references →
    (c.shift offset).holds outer record = c.holds inner part
  | .always, _ => rfl
  | .compare r op value, same =>
      leaf_shift (same r (List.mem_singleton.mpr rfl)) (op.holds · value)
  | .text r op pattern, same =>
      leaf_shift (same r (List.mem_singleton.mpr rfl)) (op.holdsFor · pattern)
  | .null r negated, same =>
      leaf_shift (same r (List.mem_singleton.mpr rfl)) (·.isNull != negated)
  | .all terms, same => allHold_shiftAll terms same
  | .any terms, same => anyHolds_shiftAll terms same

theorem allHold_shiftAll : ∀ terms : List Condition,
    Mirrored outer record offset inner part (allReferences terms) →
    allHold outer record (shiftAll offset terms) = allHold inner part terms
  | [], _ => rfl
  | c :: rest, same => by
      have first := holds_shift c fun r hr => same r (List.mem_append_left _ hr)
      have others := allHold_shiftAll rest fun r hr => same r (List.mem_append_right _ hr)
      rw [shiftAll, allHold, allHold, first, others]

theorem anyHolds_shiftAll : ∀ terms : List Condition,
    Mirrored outer record offset inner part (allReferences terms) →
    anyHolds outer record (shiftAll offset terms) = anyHolds inner part terms
  | [], _ => rfl
  | c :: rest, same => by
      have first := holds_shift c fun r hr => same r (List.mem_append_left _ hr)
      have others := anyHolds_shiftAll rest fun r hr => same r (List.mem_append_right _ hr)
      rw [shiftAll, anyHolds, anyHolds, first, others]

end

end Shift

end Condition

/-! ## One object -/

namespace Field

theorem value_optional (path : String) (type : ValueType) (read : T → Option type.Carrier)
    (record : T) :
    (optional path type read).value record =
      match read record with
      | some x => type.value x
      | none => .null :=
  rfl

/-- Without the object, a field of it has no value. -/
theorem value_insideOptional (path : String) (get : T → Option U) (f : Field U) (record : T) :
    (insideOptional path get f).value record =
      match get record with
      | some part => f.value part
      | none => .null := by
  rw [insideOptional, value_optional]
  cases get record <;> rfl

end Field

namespace Schema

/-- The second schema has the fields of the first one, and behind them those of
an object with its own field in front. `get` finds the object in a record, where
it may be missing only if it is optional. -/
structure Flattens (s t : Schema T) (path : String) (optional : Bool) (get : T → Option U)
    (inner : Schema U) : Prop where
  size : t.size = s.size + (1 + inner.size)
  before : ∀ i, i < s.size → t.fieldAt? i = s.fieldAt? i
  /-- The object itself is there, or it is not. -/
  object : ∃ f, t.fieldAt? s.size = some f ∧ f.path = path ∧ f.type = .object inner.entity ∧
    f.nullable = optional ∧
    ∀ record, f.value record = if (get record).isSome then .object else .null
  /-- Each of its fields has the value that it has in the object. -/
  member : ∀ j g, inner.fieldAt? j = some g → ∃ f, t.fieldAt? (s.size + 1 + j) = some f ∧
    f.path = path ++ "." ++ g.path ∧ f.type = g.type ∧ f.nullable = (g.nullable || optional) ∧
    ∀ record, f.value record =
      match get record with
      | some part => g.value part
      | none => .null

section Append

variable (s : Schema T) (object : Field T) (members : List (Field T))

theorem size_append_cons : (s.append (object :: members)).size =
    s.size + (1 + members.length) := by
  show (s.fields ++ object :: members).length = s.fields.length + (1 + members.length)
  rw [List.length_append, List.length_cons]
  omega

theorem fieldAt?_append_cons :
    (s.append (object :: members)).fieldAt? s.size = some object := by
  rw [fieldAt?_append, if_neg (Nat.lt_irrefl _), Nat.sub_self, List.getElem?_cons_zero]

theorem fieldAt?_append_cons_add (j : Nat) :
    (s.append (object :: members)).fieldAt? (s.size + 1 + j) = members[j]? := by
  have beyond : ¬ s.size + 1 + j < s.size := by omega
  have rest : s.size + 1 + j - s.size = j + 1 := by omega
  rw [fieldAt?_append, if_neg beyond, rest, List.getElem?_cons_succ]

end Append

theorem flattens_nested (s : Schema T) (path : String) (get : T → U) (inner : Schema U) :
    s.Flattens (s.nested path get inner) path false (fun record => some (get record)) inner where
  size := by rw [nested, size_append_cons, List.length_map]; rfl
  before i known := by rw [nested, fieldAt?_append, if_pos known]
  object := ⟨_, fieldAt?_append_cons .., rfl, rfl, rfl, fun _ => rfl⟩
  member j g placed := by
    refine ⟨.inside path get g, ?_, rfl, rfl, (Bool.or_false _).symm, fun _ => rfl⟩
    rw [nested, fieldAt?_append_cons_add, List.getElem?_map]
    show (inner.fieldAt? j).map _ = _
    rw [placed]
    rfl

theorem flattens_optionalNested (s : Schema T) (path : String) (get : T → Option U)
    (inner : Schema U) :
    s.Flattens (s.optionalNested path get inner) path true get inner where
  size := by rw [optionalNested, size_append_cons, List.length_map]; rfl
  before i known := by rw [optionalNested, fieldAt?_append, if_pos known]
  object := by
    refine ⟨_, fieldAt?_append_cons .., rfl, rfl, rfl, ?_⟩
    intro record
    rw [Field.value_optional]
    cases get record <;> rfl
  member j g placed := by
    refine ⟨.insideOptional path get g, ?_, rfl, rfl, (Bool.or_true _).symm, ?_⟩
    · rw [optionalNested, fieldAt?_append_cons_add, List.getElem?_map]
      show (inner.fieldAt? j).map _ = _
      rw [placed]
      rfl
    · intro record
      exact Field.value_insideOptional path get g record

/-! ## Any depth -/

/-- The schema with the same fields, of which none ever has a value. -/
def vacant (s : Schema T) : Schema Unit where
  entity := s.entity
  fields := s.fields.map fun f => .optional f.path f.type fun _ => none

theorem valueAt?_vacant (s : Schema T) {i : Nat} (known : i < s.size) :
    s.vacant.valueAt? () i = some .null := by
  obtain ⟨f, placed⟩ := exists_fieldAt? known
  show ((s.fields.map _)[i]?).map _ = _
  rw [List.getElem?_map]
  show ((s.fieldAt? i).map _).map _ = _
  rw [placed]
  rfl

/-- The value of the field at a position in an object that may be missing. -/
def valueWithin? (s : Schema U) (i : Nat) : Option U → Option Value
  | some part => s.valueAt? part i
  | none => s.vacant.valueAt? () i

theorem Flattens.valueAt? {s t : Schema T} {path : String} {optional : Bool}
    {get : T → Option U} {inner : Schema U} (flat : s.Flattens t path optional get inner)
    {j : Nat} (known : j < inner.size) (record : T) :
    t.valueAt? record (s.size + 1 + j) = inner.valueWithin? j (get record) := by
  obtain ⟨g, placed⟩ := exists_fieldAt? known
  obtain ⟨f, found, -, -, -, value⟩ := flat.member j g placed
  rw [Schema.valueAt?, found, Option.map_some, value]
  cases get record with
  | none => exact (inner.valueAt?_vacant known).symm
  | some part =>
      show _ = (inner.fieldAt? j).map _
      rw [placed]
      rfl

/-- The fields of the inner schema stand in another one from the position
`offset` on, because its object has been nested there, perhaps in an object that
has been nested itself. `part` finds the object in a record, if it is there. -/
inductive Embeds {U : Type} (inner : Schema U) :
    {T : Type} → Schema T → (offset : Nat) → (part : T → Option U) → Prop
  | itself : Embeds inner inner 0 some
  | registered {T : Type} {s t : Schema T} {offset : Nat} {part : T → Option U} :
      Embeds inner s offset part → s.Extends t → Embeds inner t offset part
  | nested {S T : Type} {t : Schema T} {offset : Nat} {part : T → Option U} (s : Schema S)
      (path : String) (get : S → T) : Embeds inner t offset part →
      Embeds inner (s.nested path get t) (s.size + 1 + offset) fun record => part (get record)
  | optionalNested {S T : Type} {t : Schema T} {offset : Nat} {part : T → Option U} (s : Schema S)
      (path : String) (get : S → Option T) : Embeds inner t offset part →
      Embeds inner (s.optionalNested path get t) (s.size + 1 + offset)
        fun record => (get record).bind part

section Embeds

variable {inner : Schema U} {offset : Nat}

/-- The inner fields are all there, with the values that they have in the
object, or without any if it is missing. -/
def Contains (inner : Schema U) (outer : Schema T) (offset : Nat) (part : T → Option U) : Prop :=
  offset + inner.size ≤ outer.size ∧ ∀ j, j < inner.size → ∀ record,
    outer.valueAt? record (offset + j) = inner.valueWithin? j (part record)

theorem Extends.size_le {s t : Schema T} (h : s.Extends t) : s.size ≤ t.size := by
  obtain ⟨more, rfl⟩ := h.exists_append
  show s.fields.length ≤ (s.fields ++ more).length
  rw [List.length_append]
  exact Nat.le_add_right _ _

theorem Contains.registered {s t : Schema T} {part : T → Option U}
    (contains : inner.Contains s offset part) (h : s.Extends t) : inner.Contains t offset part := by
  refine ⟨Nat.le_trans contains.1 h.size_le, ?_⟩
  intro j known record
  have inside : offset + j < s.size := by
    have bound := contains.1
    omega
  rw [valueAt?, h.fieldAt? inside]
  exact contains.2 j known record

/-- To flatten once more moves the inner fields on. If the object around them is
missing, so are they. -/
theorem Contains.flattened {s s' : Schema S} {t : Schema T} {path : String} {optional : Bool}
    {get : S → Option T} {part : T → Option U} (contains : inner.Contains t offset part)
    (flat : s.Flattens s' path optional get t) :
    inner.Contains s' (s.size + 1 + offset) fun record => (get record).bind part := by
  have bound := contains.1
  refine ⟨?_, ?_⟩
  · rw [flat.size]
    omega
  · intro j known record
    have inside : offset + j < t.size := by omega
    rw [Nat.add_assoc, flat.valueAt? inside]
    show _ = inner.valueWithin? j ((get record).bind part)
    -- without the object around it, each inner field is among the vacant ones
    cases get record with
    | some sub => exact contains.2 j known sub
    | none => exact (t.valueAt?_vacant inside).trans (inner.valueAt?_vacant known).symm

/-- By induction on the registrations, from the object outwards. -/
theorem Embeds.contains {outer : Schema T} {part : T → Option U}
    (h : inner.Embeds outer offset part) : inner.Contains outer offset part := by
  induction h with
  | itself =>
      refine ⟨Nat.le_of_eq (Nat.zero_add _), ?_⟩
      intro j _ record
      rw [Nat.zero_add]
      rfl
  | registered _ extended ih => exact ih.registered extended
  | nested s path get _ ih => exact ih.flattened (flattens_nested s path get _)
  | optionalNested s path get _ ih => exact ih.flattened (flattens_optionalNested s path get _)

/-- A condition on an object is as true of the record around it. -/
theorem Embeds.holds_shift {outer : Schema T} {part : T → Option U}
    (h : inner.Embeds outer offset part) {c : Condition} (below : c.Below inner.size)
    (record : T) : (c.shift offset).holds outer record =
      match part record with
      | some object => c.holds inner object
      | none => c.holds inner.vacant () := by
  have values := h.contains.2
  -- the fields that are referred to are those of the object or, without it, vacant ones
  cases found : part record with
  | some object =>
      refine Condition.holds_shift c ?_
      intro r member
      rw [Nat.add_comm, values r.index (below r member), found]
      rfl
  | none =>
      refine Condition.holds_shift c ?_
      intro r member
      rw [Nat.add_comm, values r.index (below r member), found]
      rfl

end Embeds

/-- **Nested objects.** To nest an object adds a field for the object itself and
one for each of its fields, under its path, with the same type and the values
that they have in the object; all of them are nullable, and have no value
without the object, if it is optional. So a condition on the fields of the
object, moved by the number of fields in front of them, is true of a record
exactly if it is true of the object in the record, or, if there is no object,
of fields without values. That does not depend on what is registered later,
and holds for objects inside other ones at any depth. -/
theorem nested_meaning (inner : Schema U) :
    (∀ (T : Type) (s : Schema T) (path : String) (get : T → U),
      s.Flattens (s.nested path get inner) path false (fun record => some (get record)) inner) ∧
    (∀ (T : Type) (s : Schema T) (path : String) (get : T → Option U),
      s.Flattens (s.optionalNested path get inner) path true get inner) ∧
    (∀ (T : Type) (s t : Schema T) (path : String) (get : T → U),
      (s.nested path get inner).Extends t → ∀ c : Condition, c.Below inner.size → ∀ record,
        (c.shift (s.size + 1)).holds t record = c.holds inner (get record)) ∧
    (∀ (T : Type) (s t : Schema T) (path : String) (get : T → Option U),
      (s.optionalNested path get inner).Extends t → ∀ c : Condition, c.Below inner.size →
      ∀ record,
        (∀ object, get record = some object →
          (c.shift (s.size + 1)).holds t record = c.holds inner object) ∧
        (get record = none → (c.shift (s.size + 1)).holds t record = c.holds inner.vacant ())) ∧
    ∀ (T : Type) (outer : Schema T) (offset : Nat) (part : T → Option U),
      inner.Embeds outer offset part → ∀ c : Condition, c.Below inner.size → ∀ record,
        (c.shift offset).holds outer record =
          match part record with
          | some object => c.holds inner object
          | none => c.holds inner.vacant () := by
  refine ⟨?_, ?_, ?_, ?_, ?_⟩
  · intro T s path get
    exact flattens_nested s path get inner
  · intro T s path get
    exact flattens_optionalNested s path get inner
  · intro T s t path get extended c below record
    exact (Embeds.registered (.nested s path get .itself) extended).holds_shift below record
  · intro T s t path get extended c below record
    have meaning := (Embeds.registered (.optionalNested s path get .itself) extended).holds_shift
      below record
    refine ⟨?_, ?_⟩
    · intro object found
      rw [found] at meaning
      exact meaning
    · intro missing
      rw [missing] at meaning
      exact meaning
  · intro T outer offset part embedded c below record
    exact embedded.holds_shift below record

end Schema

/-- A record for examples, with a person who may be missing. -/
structure Club where
  name : String
  chair : Option Person
  motto : String

def Club.named : Schema Club :=
  (Schema.empty "Club").field "Name" .text Club.name

def Club.schema : Schema Club :=
  (named.optionalNested "Chair" Club.chair Person.schema).field "Motto" .text Club.motto

theorem Club.extends_schema :
    (named.optionalNested "Chair" Club.chair Person.schema).Extends schema :=
  .field _ _ _ .refl

/-- A record for examples, with a person two levels below. -/
structure League where
  host : Club

def League.schema : Schema League :=
  (Schema.empty "League").nested "Host" League.host Club.schema

/-- Persons without a nickname, or who live in York. -/
def Person.unnamed : Condition :=
  .any [.null ⟨"Nickname", 1, .text, true⟩ false,
    .text ⟨"Address.City", 3, .text, false⟩ .contains "york"]

/-- A condition on persons can be put to the chair of a club and of the host of
a league. A missing chair has no nickname. -/
theorem Schema.nested_meaning_club :
    (∀ club chair, club.chair = some chair →
      (Person.unnamed.shift 2).holds Club.schema club =
        Person.unnamed.holds Person.schema chair) ∧
    (∀ club, club.chair = none → (Person.unnamed.shift 2).holds Club.schema club = true) ∧
    ∀ league chair, league.host.chair = some chair →
      (Person.unnamed.shift 3).holds League.schema league =
        Person.unnamed.holds Person.schema chair := by
  have below : Person.unnamed.Below Person.schema.size := by
    simp only [Condition.Below, Person.unnamed, Condition.references, Condition.allReferences]
    decide
  obtain ⟨-, -, -, optional, deep⟩ := nested_meaning Person.schema
  refine ⟨?_, ?_, ?_⟩
  · intro club chair found
    exact (optional Club _ _ _ _ Club.extends_schema _ below club).1 chair found
  · intro club missing
    exact ((optional Club _ _ _ _ Club.extends_schema _ below club).2 missing).trans rfl
  · intro league chair found
    have meaning := deep League League.schema 3 _
      (.nested (.empty "League") "Host" League.host
        (.registered (.optionalNested _ _ _ .itself) Club.extends_schema)) _ below league
    simp only [found, Option.bind_some] at meaning
    exact meaning

end RecordFilter
