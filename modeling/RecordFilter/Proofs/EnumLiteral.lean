import Mathlib.Order.Bounds.Basic
import RecordFilter.Condition.Rendering
import RecordFilter.Proofs.IntegerLiteral
import RecordFilter.Proofs.LowerTrim
import RecordFilter.Proofs.Typing

/-!
# Variants as literals

A literal of an enumeration stands for the first variant that is the same text in
lower case. Blanks around the literal do not count, but those around a variant do, and
with blanks around it or behind another spelling of the same text a variant has no
literal. A condition shows the variant that a literal stands for, and what it shows is
a literal for that variant again.
-/

namespace RecordFilter

open Text Results

variable {T : Type}

/-! ## Positions of variants -/

namespace Literal

/-- The positions of the variants that are the text in another case. -/
def spellings (variants : List String) (s : String) : Set Nat :=
  {i | ∃ v, variants[i]? = some v ∧ lower v = lower s}

variable {name literal s v : String} {variants : List String} {i : Nat}

theorem findVariant?_eq_some_iff :
    findVariant? variants s = some i ↔ IsLeast (spellings variants s) i := by
  unfold findVariant?
  rw [List.findIdx?_eq_some_iff_getElem]
  constructor
  · rintro ⟨inside, found, first⟩
    refine ⟨⟨variants[i], List.getElem?_eq_getElem inside, beq_iff_eq.mp found⟩, ?_⟩
    rintro j ⟨w, there, same⟩
    by_contra earlier
    obtain ⟨bound, rfl⟩ := List.getElem?_eq_some_iff.mp there
    exact first j (Nat.lt_of_not_le earlier) (beq_iff_eq.mpr same)
  · rintro ⟨⟨w, there, same⟩, least⟩
    obtain ⟨inside, rfl⟩ := List.getElem?_eq_some_iff.mp there
    refine ⟨inside, beq_iff_eq.mpr same, ?_⟩
    intro j earlier found
    have bound : j < variants.length := Nat.lt_trans earlier inside
    have notLess := least ⟨variants[j], List.getElem?_eq_getElem bound, beq_iff_eq.mp found⟩
    omega

theorem findVariant?_eq_none_iff :
    findVariant? variants s = none ↔ ∀ v ∈ variants, lower v ≠ lower s := by
  simp [findVariant?, List.findIdx?_eq_none_iff]

/-! ## Constants -/

theorem read_enum (filled : isBlank literal = false) :
    read (.enum name variants) literal =
      match findVariant? variants (trim literal) with
      | some index => .ok index
      | none => .error (.unknownVariant name variants) := by
  rw [isBlank_eq_false_iff] at filled
  unfold read
  exact if_neg filled

theorem read_enum_eq_ok_iff (name : String) (filled : isBlank literal = false) :
    read (.enum name variants) literal = .ok i ↔
      findVariant? variants (trim literal) = some i := by
  rw [read_enum filled]
  cases findVariant? variants (trim literal) with
  | none => exact iff_of_false nofun nofun
  | some j => exact ok_eq_ok_iff

theorem constant_enum_eq_ok_iff : constant (.enum name variants) literal = .ok (.enum i) ↔
    isBlank literal = false ∧ IsLeast (spellings variants (trim literal)) i := by
  rw [constant_eq_ok_iff, ← findVariant?_eq_some_iff]
  cases filled : isBlank literal with
  | true => simp [read_eq_error_of_isBlank filled]
  | false =>
      rw [and_iff_right rfl]
      refine Iff.trans ?_ (read_enum_eq_ok_iff name filled)
      show (∃ x, _ ∧ Value.enum x = .enum i) ↔ _
      simp only [Value.enum.injEq, exists_eq_right]

theorem constant_enum_eq_error_iff : constant (.enum name variants) literal =
      .error (.invalidValue literal (.enum name variants) (.unknownVariant name variants)) ↔
    isBlank literal = false ∧ ∀ v ∈ variants, lower v ≠ lower (trim literal) := by
  rw [constant_eq_error_iff, ← findVariant?_eq_none_iff]
  cases filled : isBlank literal with
  | true => simp [read_eq_error_of_isBlank filled]
  | false =>
      rw [read_enum filled]
      cases findVariant? variants (trim literal) <;> simp

/-- A variant is a literal for its own position if the text can be one and no earlier
variant is the same in lower case. -/
theorem constant_enum_variant_iff (there : variants[i]? = some v) :
    constant (.enum name variants) v = .ok (.enum i) ↔ v ≠ "" ∧ trim v = v ∧
      ∀ j w, j < i → variants[j]? = some w → lower w ≠ lower v := by
  rw [constant_enum_eq_ok_iff]
  constructor
  · rintro ⟨filled, ⟨w, there', same⟩, least⟩
    obtain rfl := Option.some.inj (there.symm.trans there')
    have trimmed := lower_trim_eq_lower_iff.mp same.symm
    refine ⟨?_, trimmed, ?_⟩
    · rintro rfl
      cases filled
    · intro j w earlier before known
      have notLess := least ⟨w, before, known.trans same⟩
      omega
  · rintro ⟨filled, trimmed, first⟩
    rw [isBlank_eq_false_iff, trimmed]
    refine ⟨filled, ⟨v, there, rfl⟩, ?_⟩
    rintro j ⟨w, before, same⟩
    by_contra earlier
    exact first j w (Nat.lt_of_not_le earlier) before same

/-- What a literal stands for can be written as that variant: the variant is trimmed
because its lower case is. -/
theorem exists_variant_of_constant {constant' : Value}
    (read : constant (.enum name variants) literal = .ok constant') :
    ∃ i v, constant' = .enum i ∧ variants[i]? = some v ∧
      constant (.enum name variants) v = .ok (.enum i) := by
  obtain ⟨i, inside, rfl⟩ : ∃ i, i < variants.length ∧ constant' = .enum i := by
    cases hasConstant_of_constant read with
    | enum inside => exact ⟨_, inside, rfl⟩
  obtain ⟨filled, ⟨v, there, same⟩, least⟩ := constant_enum_eq_ok_iff.mp read
  have lowered : trim (lower v) = lower v := by rw [same, trim_lower, trim_trim]
  have trimmed : trim v = v := by
    rw [trim_lower] at lowered
    exact lower_trim_eq_lower_iff.mp lowered
  refine ⟨i, v, rfl, there, (constant_enum_variant_iff there).mpr ⟨?_, trimmed, ?_⟩⟩
  · rintro rfl
    exact isBlank_eq_false_iff.mp filled (lower_eq_empty_iff.mp same.symm)
  · intro j w earlier before known
    have notLess := least ⟨w, before, known.trans same⟩
    omega

end Literal

/-! ## Constants in conditions -/

namespace Condition

variable {a b c term node : Condition} {terms : List Condition}

theorem HasNode.of_conjuncts (member : term ∈ c.conjuncts) (below : term.HasNode node) :
    c.HasNode node := by
  rcases mem_conjuncts member with rfl | ⟨terms, rfl, member⟩
  · exact below
  · exact .all member below

theorem HasNode.of_disjuncts (member : term ∈ c.disjuncts) (below : term.HasNode node) :
    c.HasNode node := by
  rcases mem_disjuncts member with rfl | ⟨terms, rfl, member⟩
  · exact below
  · exact .any member below

/-- Every constant of the condition is what a literal of its field's type stands
for. -/
def FromLiterals (c : Condition) : Prop :=
  ∀ r op constant, c.HasNode (.compare r op constant) →
    ∃ literal, Literal.constant r.type literal = .ok constant

theorem fromLiterals_all (each : ∀ c ∈ terms, c.FromLiterals) : (all terms).FromLiterals := by
  intro r op constant member
  cases member with
  | all among below => exact each _ among r op constant below

theorem fromLiterals_any (each : ∀ c ∈ terms, c.FromLiterals) : (any terms).FromLiterals := by
  intro r op constant member
  cases member with
  | any among below => exact each _ among r op constant below

theorem FromLiterals.and (left : a.FromLiterals) (right : b.FromLiterals) :
    (a.and b).FromLiterals := by
  refine fromLiterals_all ?_
  intro c member r op constant below
  rcases List.mem_append.mp member with among | among
  · exact left r op constant (.of_conjuncts among below)
  · exact right r op constant (.of_conjuncts among below)

theorem FromLiterals.or (left : a.FromLiterals) (right : b.FromLiterals) :
    (a.or b).FromLiterals := by
  refine fromLiterals_any ?_
  intro c member r op constant below
  rcases List.mem_append.mp member with among | among
  · exact left r op constant (.of_disjuncts among below)
  · exact right r op constant (.of_disjuncts among below)

theorem fromLiterals_always : FromLiterals .always := by
  intro r op constant member
  cases member

theorem FromLiterals.meet (left : a.FromLiterals) (right : b.FromLiterals) :
    (a.meet b).FromLiterals := by
  unfold Condition.meet
  split
  · exact right
  · split
    · exact left
    · exact left.and right

theorem fromLiterals_anyOf (each : ∀ c ∈ terms, c.FromLiterals) :
    (anyOf terms).FromLiterals := by
  unfold anyOf
  split
  · exact each _ (List.mem_singleton.mpr rfl)
  · exact fromLiterals_any each

end Condition

namespace Clause

variable {r : FieldRef} {c : Clause} {literal : String} {result : Condition}

theorem fromLiterals_comparison {op : CompareOp} (made : comparison r op literal = .ok result) :
    result.FromLiterals := by
  obtain ⟨constant, read, rfl⟩ := map_eq_ok_iff.mp made
  intro r' op' constant' member
  cases member
  exact ⟨literal, read⟩

/-- A clause has no other constants than those of its values. -/
theorem fromLiterals_condition (made : c.condition r = .ok result) : result.FromLiterals := by
  have inversion := condition_eq_ok made
  cases test : c.operator.test <;> rw [test] at inversion
  case comparison op =>
    obtain ⟨v, rest, -, made⟩ := inversion
    exact fromLiterals_comparison made
  case order op =>
    obtain ⟨v, rest, -, made⟩ := inversion
    exact fromLiterals_comparison (comparison_of_orderComparison made)
  case search op =>
    obtain ⟨v, rest, -, made⟩ := inversion
    unfold search at made
    split at made
    · obtain ⟨-, -, rfl⟩ := map_eq_ok_iff.mp made
      intro r' op' constant member
      cases member
    · cases made
  case range =>
    obtain ⟨low, high, lower, upper, -, first, second, rfl⟩ := inversion
    have left := fromLiterals_comparison (comparison_of_orderComparison first)
    have right := fromLiterals_comparison (comparison_of_orderComparison second)
    exact left.and right
  case choice =>
    obtain ⟨terms, each, rfl⟩ := inversion
    refine Condition.fromLiterals_anyOf ?_
    intro term member
    obtain ⟨v, -, made⟩ := (mem_of_mapM_eq_ok each).mp member
    exact fromLiterals_comparison made
  case absence negated =>
    subst inversion
    intro r' op' constant member
    cases member

end Clause

/-- By the way in which the predicate is made. -/
theorem Predicate.FromClauses.fromLiterals {schema : Schema T} {p : Predicate schema}
    (made : p.FromClauses) : p.condition.FromLiterals := by
  have clause : ∀ c k, Clause.conditionIn schema c = .ok k → k.FromLiterals := by
    intro c k made
    obtain ⟨r, -, made⟩ := bind_eq_ok_iff.mp made
    exact Clause.fromLiterals_condition made
  induction made with
  | parsed parsed =>
      exact Policy.parse_induction Condition.fromLiterals_always clause
        (fun _ _ left right => left.meet right) parsed
  | built built => exact clause _ _ (conditionIn_of_ofClause built)
  | and _ _ left right =>
      rw [condition_and]
      exact left.meet right
  | or _ _ left right =>
      unfold Predicate.or
      split
      · exact Condition.fromLiterals_always
      · exact left.or right

namespace Literal

/-- **Variants as literals.** A literal that is not blank stands for the first variant
that is the same in lower case, and there is a fault if there is none. A variant is a
literal for itself if it is trimmed and not empty, and no earlier one is the same in
lower case. A comparison with what a literal stands for shows the name of a variant,
and the name is a literal for the same constant; so it is with all comparisons in the
predicates that are made of clauses. -/
theorem constant_enum (name : String) (variants : List String) :
    (∀ literal i, constant (.enum name variants) literal = .ok (.enum i) ↔
      isBlank literal = false ∧
        IsLeast {j | ∃ v, variants[j]? = some v ∧ lower v = lower (trim literal)} i) ∧
    (∀ literal, constant (.enum name variants) literal =
        .error (.invalidValue literal (.enum name variants) (.unknownVariant name variants)) ↔
      isBlank literal = false ∧ ∀ v ∈ variants, lower v ≠ lower (trim literal)) ∧
    (∀ i v, variants[i]? = some v →
      (constant (.enum name variants) v = .ok (.enum i) ↔
        v ≠ "" ∧ trim v = v ∧ ∀ j w, j < i → variants[j]? = some w → lower w ≠ lower v)) ∧
    (∀ r op literal value, r.type = .enum name variants → constant r.type literal = .ok value →
      ∃ v ∈ variants, (Condition.compare r op value).render =
          r.path ++ " " ++ op.symbol ++ " " ++ v ∧ constant r.type v = .ok value) ∧
    ∀ (schema : Schema T) (p : Predicate schema), p.FromClauses →
      ∀ r op value, p.condition.HasNode (.compare r op value) → r.type = .enum name variants →
      ∃ v ∈ variants, (Condition.compare r op value).render =
          r.path ++ " " ++ op.symbol ++ " " ++ v ∧ constant r.type v = .ok value := by
  have shown : ∀ r op literal value, r.type = .enum name variants →
      constant r.type literal = .ok value →
      ∃ v ∈ variants, (Condition.compare r op value).render =
          r.path ++ " " ++ op.symbol ++ " " ++ v ∧ constant r.type v = .ok value := by
    intro r op literal value type read
    rw [type] at read ⊢
    obtain ⟨i, v, rfl, there, again⟩ := exists_variant_of_constant read
    refine ⟨v, List.mem_of_getElem? there, ?_, again⟩
    simp [Condition.render, type, Value.renderAs, there]
  refine ⟨fun literal i => constant_enum_eq_ok_iff, fun literal => constant_enum_eq_error_iff,
    fun i v => constant_enum_variant_iff, shown, ?_⟩
  intro schema p made r op value member type
  obtain ⟨literal, read⟩ := made.fromLiterals r op value member
  exact shown r op literal value type read

/-- The positions of a switch, two of them under more than one spelling. -/
def switchNames : List String :=
  ["On", "ON", "off", " Off"]

/-- Lamps that are no more than the position of their switch. -/
def lampSchema : Schema Nat :=
  (Schema.empty "Lamp").field "Switch" (.enum "Toggle" switchNames) id

/-- Of two spellings the first one is found, and the one with a blank in it never is; a
comparison with what "OFF" stands for shows "off". -/
theorem constant_enum_switch :
    constant (.enum "Toggle" switchNames) " oN " = .ok (.enum 0) ∧
    constant (.enum "Toggle" switchNames) "ON" ≠ .ok (.enum 1) ∧
    constant (.enum "Toggle" switchNames) " Off" ≠ .ok (.enum 3) ∧
    constant (.enum "Toggle" switchNames) "dim" =
      .error (.invalidValue "dim" (.enum "Toggle" switchNames)
        (.unknownVariant "Toggle" switchNames)) ∧
    ∃ (p : Predicate lampSchema) (r : FieldRef) (v : String), p.FromClauses ∧
      p.condition = .compare r .eq (.enum 2) ∧ v ∈ switchNames ∧
      p.condition.render = r.path ++ " " ++ "==" ++ " " ++ v ∧
      constant r.type v = .ok (.enum 2) := by
  obtain ⟨first, unknown, own, shown, nodes⟩ := constant_enum (T := Nat) "Toggle" switchNames
  have off : constant (.enum "Toggle" switchNames) " OFF" = .ok (.enum 2) :=
    (first " OFF" 2).mpr ⟨by decide +kernel, findVariant?_eq_some_iff.mp (by decide +kernel)⟩
  refine ⟨?_, ?_, ?_, ?_, ?_⟩
  · exact (first " oN " 0).mpr ⟨by decide +kernel, findVariant?_eq_some_iff.mp (by decide +kernel)⟩
  · intro again
    have earlier := ((own 1 "ON" rfl).mp again).2.2 0 "On" Nat.one_pos rfl
    exact earlier (by decide +kernel)
  · intro again
    exact absurd ((own 3 " Off" rfl).mp again).2.1 (by decide +kernel)
  · exact (unknown "dim").mpr ⟨by decide +kernel, by decide +kernel⟩
  · obtain ⟨r, made, type⟩ : ∃ r : FieldRef, Clause.conditionIn lampSchema
        ⟨"switch", .equals, [" OFF"], by decide +kernel, rfl⟩ = .ok (.compare r .eq (.enum 2)) ∧
        r.type = .enum "Toggle" switchNames := by
      refine ⟨⟨"Switch", 0, .enum "Toggle" switchNames, false⟩, ?_, rfl⟩
      rw [Clause.conditionIn_of_resolve (r := ⟨"Switch", 0, .enum "Toggle" switchNames, false⟩)
        (Schema.resolve_eq_ok_iff.mpr (by decide +kernel))]
      show (constant (.enum "Toggle" switchNames) " OFF").map _ = _
      rw [off]
      rfl
    obtain ⟨p, built, condition⟩ := Predicate.exists_ofClause made
    have node : p.condition.HasNode (.compare r .eq (.enum 2)) := by
      rw [condition]
      exact .root
    obtain ⟨v, member, text, again⟩ :=
      nodes lampSchema p (.built built) r .eq (.enum 2) node type
    refine ⟨p, r, v, .built built, condition, member, ?_, again⟩
    rw [condition]
    exact text

end Literal

end RecordFilter
