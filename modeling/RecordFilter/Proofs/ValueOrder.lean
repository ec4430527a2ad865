import Mathlib.Order.Basic
import RecordFilter.Proofs.Kinds

/-!
# The order of values

Values are compared kind by kind. Whatever the kind, turning a comparison
around reverses its outcome, "at most" is transitive, and two values are equal
in the order exactly when they are equal as values. Numbers that are none have
no place in the order, and the two zeros share one. The laws are collected at
the end, in `Value.order_laws`.
-/

namespace RecordFilter

open Calendar

/-! ## Comparisons that fit together -/

section Coherence

variable {α β : Type}

/-- The first is compared with the second, and does not stand above it. -/
def AtMost (cmp : α → α → Option Ordering) (a b : α) : Prop :=
  ∃ o, cmp a b = some o ∧ o.isLE = true

/-- A comparison that need not have an outcome, but whose outcomes are those of
an order. -/
structure Coherent (cmp : α → α → Option Ordering) : Prop where
  swap : ∀ a b, cmp b a = (cmp a b).map Ordering.swap
  atMost_trans : ∀ {a b c}, AtMost cmp a b → AtMost cmp b c → AtMost cmp a c

/-- The comparison by places, for those that have one. -/
def compareAt (place : α → Option β) (cmp : β → β → Ordering) (a b : α) : Option Ordering :=
  (place a).bind fun p => (place b).map (cmp p)

variable {place : α → Option β} {cmp : β → β → Ordering} {a b : α}

theorem atMost_compareAt_iff : AtMost (compareAt place cmp) a b ↔
    ∃ p q, place a = some p ∧ place b = some q ∧ (cmp p q).isLE = true := by
  unfold AtMost compareAt
  cases place a <;> cases place b <;> simp

theorem coherent_compareAt [Std.TransCmp cmp] : Coherent (compareAt place cmp) where
  swap a b := by
    unfold compareAt
    cases place a with
    | none => cases place b <;> rfl
    | some p =>
        cases place b with
        | none => rfl
        | some q => exact congrArg some Std.OrientedCmp.eq_swap
  atMost_trans := by
    intro a b c first second
    obtain ⟨p, q, atA, atB, below⟩ := atMost_compareAt_iff.mp first
    obtain ⟨q', r, atB', atC, below'⟩ := atMost_compareAt_iff.mp second
    obtain rfl := Option.some.inj (atB.symm.trans atB')
    exact atMost_compareAt_iff.mpr ⟨p, r, atA, atC, Std.TransCmp.isLE_trans below below'⟩

end Coherence

section Equals

variable {α : Type} {cmp : α → α → Option Ordering} {a b c : α}

/-- An outcome is known by the sides on which it lies. -/
theorem outcome_ext {x y : Option Ordering}
    (below : (∃ o, x = some o ∧ o.isLE = true) ↔ ∃ o, y = some o ∧ o.isLE = true)
    (above : (∃ o, x = some o ∧ o.isGE = true) ↔ ∃ o, y = some o ∧ o.isGE = true) : x = y := by
  rcases x with _ | _ | _ | _ <;> rcases y with _ | _ | _ | _ <;> simp_all

namespace Coherent

theorem atMost_iff_isGE (coherent : Coherent cmp) :
    AtMost cmp b a ↔ ∃ o, cmp a b = some o ∧ o.isGE = true := by
  rw [AtMost, coherent.swap a b]
  simp

/-- What stands in the order at all is equal to itself. -/
theorem self (coherent : Coherent cmp) (a : α) : cmp a a = none ∨ cmp a a = some .eq := by
  have turned := coherent.swap a a
  cases outcome : cmp a a with
  | none => exact .inl rfl
  | some o => cases o <;> simp [outcome] at turned ⊢

/-- What is equal in the order stands alike to everything. -/
theorem congr_right (coherent : Coherent cmp) (same : cmp b c = some .eq) :
    cmp a b = cmp a c := by
  have up : AtMost cmp b c := ⟨.eq, same, rfl⟩
  have down : AtMost cmp c b := coherent.atMost_iff_isGE.mpr ⟨.eq, same, rfl⟩
  apply outcome_ext
  · exact ⟨fun below => coherent.atMost_trans below up,
      fun below => coherent.atMost_trans below down⟩
  · rw [← coherent.atMost_iff_isGE, ← coherent.atMost_iff_isGE]
    exact ⟨coherent.atMost_trans down, coherent.atMost_trans up⟩

theorem congr_left (coherent : Coherent cmp) (same : cmp a b = some .eq) :
    cmp a c = cmp b c := by
  have turned : cmp c a = cmp c b := coherent.congr_right same
  rw [coherent.swap c a, turned, ← coherent.swap c b]

theorem eq_some_swap_iff (coherent : Coherent cmp) {o : Ordering} :
    cmp b a = some o.swap ↔ cmp a b = some o := by
  rw [coherent.swap a b, Option.map_eq_some_iff]
  simp

/-- What is below something below a third stands below the third: it is at most the
third, and if the two were equal, the one between would be on both sides of them. -/
theorem lt_trans (coherent : Coherent cmp) (first : cmp a b = some .lt)
    (second : cmp b c = some .lt) : cmp a c = some .lt := by
  obtain ⟨o, outcome, below⟩ := coherent.atMost_trans ⟨.lt, first, rfl⟩ ⟨.lt, second, rfl⟩
  cases o with
  | lt => exact outcome
  | gt => cases below
  | eq =>
      have above : cmp b a = some .gt := coherent.eq_some_swap_iff.mpr first
      have alike : cmp b a = cmp b c := coherent.congr_right outcome
      rw [above, second] at alike
      cases alike

theorem gt_trans (coherent : Coherent cmp) (first : cmp a b = some .gt)
    (second : cmp b c = some .gt) : cmp a c = some .gt := by
  have first' : cmp b a = some .lt := coherent.eq_some_swap_iff.mpr first
  have second' : cmp c b = some .lt := coherent.eq_some_swap_iff.mpr second
  exact coherent.eq_some_swap_iff.mpr (coherent.lt_trans second' first')

/-- Two outcomes that do not point in opposite directions add up. -/
theorem then_trans (coherent : Coherent cmp) {o o' : Ordering} (first : cmp a b = some o)
    (second : cmp b c = some o') (agree : o = o' ∨ o = .eq ∨ o' = .eq) :
    cmp a c = some (o.then o') := by
  rcases agree with rfl | rfl | rfl
  · cases o with
    | lt => exact coherent.lt_trans first second
    | eq => rw [coherent.congr_left first, second]; rfl
    | gt => exact coherent.gt_trans first second
  · rw [coherent.congr_left first, second]
    rfl
  · rw [← coherent.congr_right second, first, Ordering.then_eq]

end Coherent

end Equals

/-! ## Floating point numbers -/

section FloatOrder

open Float.Model

/-- The place of a number: infinity, or a side of zero with an exponent and a
mantissa there, which count downwards below zero. -/
def floatPlace : UnpackedFloat → Option (Int × Int × Int)
  | .notANumber => none
  | .infinity .negative => some (-2, 0, 0)
  | .finite .negative m e _ => some (-1, -e, -m)
  | .zero _ => some (0, 0, 0)
  | .finite .positive m e _ => some (1, e, m)
  | .infinity .positive => some (2, 0, 0)

/-- Places from the lowest to the highest. -/
def comparePlaces : Int × Int × Int → Int × Int × Int → Ordering :=
  compareLex (compareOn (·.1)) (compareLex (compareOn (·.2.1)) (compareOn (·.2.2)))

instance : Std.TransCmp comparePlaces :=
  inferInstanceAs (Std.TransCmp (compareLex _ (compareLex _ _)))

theorem compare_neg (m n : Int) : compare (-m) (-n) = (compare m n).swap := by
  rw [Int.compare_swap]
  simp only [compare, compareOfLessAndEq, Int.neg_lt_neg_iff, Int.neg_inj, eq_comm]

theorem compare_natCast (m n : Nat) : compare (m : Int) (n : Int) = compare m n := by
  simp only [compare, compareOfLessAndEq, Int.ofNat_lt, Int.natCast_inj]

/-- Numbers are compared by their places. -/
theorem unpacked_compare_eq (x y : UnpackedFloat) :
    x.compare y = compareAt floatPlace comparePlaces x y := by
  have above (e e' : Int) (m m' : Nat) : (compare e e').then (compare m m') =
      comparePlaces (1, e, m) (1, e', m') := by
    simp [comparePlaces, compareLex, compareOn, compare_natCast]
  have below (e e' : Int) (m m' : Nat) : ((compare e e').then (compare m m')).swap =
      comparePlaces (-1, -e, -m) (-1, -e', -m') := by
    simp [comparePlaces, compareLex, compareOn, compare_neg, compare_natCast, Ordering.swap_then]
  rcases x with (_ | _) | _ | _ | ⟨_ | _, _, _, _⟩ <;>
    rcases y with (_ | _) | _ | _ | ⟨_ | _, _, _, _⟩ <;>
    first
    | rfl
    | exact congrArg some (above _ _ _ _)
    | exact congrArg some (below _ _ _ _)

theorem compareFloat?_eq_compareAt :
    compareFloat? = compareAt (fun x => floatPlace x.toModel.unpack) comparePlaces := by
  funext x y
  rw [compareFloat?_eq, unpacked_compare_eq]
  rfl

theorem coherent_compareFloat? : Coherent compareFloat? := by
  rw [compareFloat?_eq_compareAt]
  exact coherent_compareAt

end FloatOrder

/-! ## Dates, times and identifiers -/

instance : Std.TransOrd Date :=
  inferInstanceAs (Std.TransCmp (compareLex _ (compareLex _ _)))

instance : Std.TransOrd TimeOfDay :=
  inferInstanceAs (Std.TransCmp (compareLex _ (compareLex _ (compareLex _ _))))

instance : Std.TransOrd DateTime :=
  inferInstanceAs (Std.TransCmp (compareLex _ _))

instance : Std.TransOrd Uuid :=
  inferInstanceAs (Std.TransCmp (compareOn _))

theorem compareOn_eq_eq_iff {α β : Type} [Ord β] [Std.LawfulEqOrd β] {part : α → β} {a b : α} :
    compareOn part a b = .eq ↔ part a = part b :=
  Std.compare_eq_iff_eq

instance : Std.LawfulEqOrd Date where
  eq_of_compare {a b} same := by
    have parts : compareLex _ (compareLex _ _) a b = .eq := same
    simp only [compareLex_eq_eq, compareOn_eq_eq_iff] at parts
    cases a
    cases b
    simp_all

instance : Std.LawfulEqOrd TimeOfDay where
  eq_of_compare {a b} same := by
    have parts : compareLex _ (compareLex _ (compareLex _ _)) a b = .eq := same
    simp only [compareLex_eq_eq, compareOn_eq_eq_iff] at parts
    cases a
    cases b
    simp_all [Fin.ext_iff]

instance : Std.LawfulEqOrd DateTime where
  eq_of_compare {a b} same := by
    have parts : compareLex _ _ a b = .eq := same
    simp only [compareLex_eq_eq, compareOn_eq_eq_iff] at parts
    cases a
    cases b
    simp_all

instance : Std.LawfulEqOrd Uuid where
  eq_of_compare {a b} same := by
    have digits : a.digits = b.digits := compareOn_eq_eq_iff.mp same
    cases a
    cases b
    simp_all

/-! ## Values -/

namespace Value

variable {a b c : Value} {o : Ordering}

theorem kind_eq_of_compare? (h : a.compare? b = some o) : b.kind = a.kind := by
  cases a <;> cases b <;> first | rfl | cases h

/-- What is ordered against anything is neither missing nor an object. -/
theorem kind_ne_of_compare? (h : a.compare? b = some o) :
    a.kind ≠ .null ∧ a.kind ≠ .object := by
  constructor
  all_goals
    intro unordered
    -- only one value is left, and it is ordered against none
    cases a <;> cases unordered
    cases b <;> cases h

theorem coherent_compare? : Coherent compare? where
  swap a b := by
    cases a <;> cases b
    case float.float x y => exact coherent_compareFloat?.swap x y
    all_goals first | rfl | exact congrArg some Std.OrientedCmp.eq_swap
  atMost_trans := by
    rintro a b c ⟨o, first, below⟩ ⟨o', second, below'⟩
    -- all three are of one kind, and each kind has its own order
    cases a <;> cases b <;> cases kind_eq_of_compare? first <;>
      cases c <;> cases kind_eq_of_compare? second
    case float.float.refl.float.refl =>
      exact coherent_compareFloat?.atMost_trans ⟨o, first, below⟩ ⟨o', second, below'⟩
    all_goals
      cases first <;> cases second <;>
        exact ⟨_, rfl, Std.TransCmp.isLE_trans below below'⟩

theorem compareFloat?_eq_some_eq_iff {x y : Float} :
    compareFloat? x y = some .eq ↔ (x == y) = true := by
  rw [compareFloat?_eq, float_beq_iff]

/-- Values are equal in the order exactly if they are equal, but for the
absence of a value and for objects, which have no place in it. -/
theorem compare?_eq_some_eq_iff :
    a.compare? b = some .eq ↔ a ≠ .null ∧ a ≠ .object ∧ (a == b) = true := by
  cases a <;> cases b
  case float.float x y => simp [compare?, compareFloat?_eq_some_eq_iff, BEq.beq, equal]
  all_goals simp [compare?, BEq.beq, equal]

/-- Two values are ordered exactly if they are of one kind, other than that of missing
values and that of objects, and none of them is a number that is none. -/
theorem isSome_compare?_iff_kind : (a.compare? b).isSome = true ↔
    a.kind = b.kind ∧ a.kind ≠ .null ∧ a.kind ≠ .object ∧ a.isNaN = false ∧ b.isNaN = false := by
  constructor
  · intro ordered
    obtain ⟨o, outcome⟩ := Option.isSome_iff_exists.mp ordered
    have same : a.kind = b.kind := (kind_eq_of_compare? outcome).symm
    have plain : a.kind ≠ .null ∧ a.kind ≠ .object := kind_ne_of_compare? outcome
    have numbers : ¬(a.isNaN = true ∨ b.isNaN = true) := by
      rw [← compare?_eq_none_iff same (mt (congrArg kind) plain.1) (same ▸ plain.2), outcome]
      exact nofun
    rw [not_or, Bool.not_eq_true, Bool.not_eq_true] at numbers
    exact ⟨same, plain.1, plain.2, numbers⟩
  · rintro ⟨same, some, plain, number, number'⟩
    rw [Option.isSome_iff_ne_none, ne_eq,
      compare?_eq_none_iff same (mt (congrArg kind) some) (same ▸ plain), number, number']
    exact nofun

/-- **The laws of the order of values.** Turning a comparison around reverses its
outcome. Two outcomes in a row that do not point in opposite directions add up: below
and below is below, and an equality leaves the other outcome as it is. There is an
outcome exactly for values of one kind that are neither missing nor objects, and numbers
as far as they are floating point numbers. The order has the equality of values, but for
missing values and objects, which are equal without being ordered. -/
theorem order_laws (a b c : Value) :
    b.compare? a = (a.compare? b).map Ordering.swap ∧
    (∀ o o', a.compare? b = some o → b.compare? c = some o' → o = o' ∨ o = .eq ∨ o' = .eq →
      a.compare? c = some (o.then o')) ∧
    ((a.compare? b).isSome = true ↔ a.kind = b.kind ∧ a.kind ≠ .null ∧ a.kind ≠ .object ∧
      a.isNaN = false ∧ b.isNaN = false) ∧
    (a.compare? b = some .eq ↔ a ≠ .null ∧ a ≠ .object ∧ (a == b) = true) ∧
    (a = .null ∨ a = .object → (a == a) = true ∧ a.compare? a = none) := by
  refine ⟨coherent_compare?.swap a b, ?_, isSome_compare?_iff_kind, compare?_eq_some_eq_iff, ?_⟩
  · intro o o' first second agree
    exact coherent_compare?.then_trans first second agree
  · rintro (rfl | rfl) <;> exact ⟨rfl, rfl⟩

/-- A time on the first of January 1970. -/
def onEpoch (hour : Fin 24) (minute : Fin 60) (second : Fin 61) (nano : Fin 1000000000) : Value :=
  .dateTime ⟨.epoch, .ofParts hour minute second nano⟩

/-- A leap second comes between the last nanosecond before it and the next minute.
Negative zero, which is equal to zero, is below the least number above zero. A number
that is none has no order, not even with itself, and neither has an object, which is
equal to itself. -/
theorem order_laws_leapSecond :
    (onEpoch 11 59 59 999999999).compare? (onEpoch 11 59 60 0) = some .lt ∧
    (onEpoch 11 59 60 0).compare? (onEpoch 12 0 0 0) = some .lt ∧
    (onEpoch 11 59 59 999999999).compare? (onEpoch 12 0 0 0) = some .lt ∧
    (onEpoch 12 0 0 0).compare? (onEpoch 11 59 59 999999999) = some .gt ∧
    (float (-0)).compare? (float 0) = some .eq ∧
    (float 0).compare? (float 5e-324) = some .lt ∧
    (float (-0)).compare? (float 5e-324) = some .lt ∧
    ((float (0 / 0)).compare? (float (0 / 0))).isSome = false ∧
    (object == object) = true ∧ object.compare? object = none := by
  have before : (onEpoch 11 59 59 999999999).compare? (onEpoch 11 59 60 0) = some .lt := by
    decide +kernel
  have after : (onEpoch 11 59 60 0).compare? (onEpoch 12 0 0 0) = some .lt := by decide +kernel
  have zeros : (float (-0)).compare? (float 0) = some .eq := by decide +kernel
  have least : (float 0).compare? (float 5e-324) = some .lt := by decide +kernel
  obtain ⟨-, times, -⟩ :=
    order_laws (onEpoch 11 59 59 999999999) (onEpoch 11 59 60 0) (onEpoch 12 0 0 0)
  obtain ⟨-, numbers, -⟩ := order_laws (float (-0)) (float 0) (float 5e-324)
  obtain ⟨turned, -⟩ := order_laws (onEpoch 11 59 59 999999999) (onEpoch 12 0 0 0) null
  obtain ⟨-, -, ordered, -⟩ := order_laws (float (0 / 0)) (float (0 / 0)) null
  obtain ⟨-, -, -, -, unordered⟩ := order_laws object object object
  have across : (onEpoch 11 59 59 999999999).compare? (onEpoch 12 0 0 0) = some .lt :=
    times .lt .lt before after (.inl rfl)
  refine ⟨before, after, across, ?_, zeros, least, numbers .eq .lt zeros least (.inr (.inl rfl)),
    ?_, unordered (.inr rfl)⟩
  · rw [turned, across]
    rfl
  · rw [Bool.eq_false_iff, ne_eq, ordered]
    rintro ⟨-, -, -, number, -⟩
    exact absurd number (by decide +kernel)

end Value

end RecordFilter
