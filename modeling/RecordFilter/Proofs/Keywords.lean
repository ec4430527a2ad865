import RecordFilter.Proofs.Grammar
import RecordFilter.Proofs.IntegerLiteral
import RecordFilter.Proofs.LowerAscii

/-!
# Keywords

The tokens of the operators and the two truth values are read in any case. A text is
lowered with the mapping of all letters before it is compared, but since the keywords
have no k in them, this comes to the same as leaving the case of ASCII letters out of
account: no letter from elsewhere stands for a letter of a keyword.
-/

namespace RecordFilter

open Results Text

/-! ## Tokens of operators -/

namespace Operator

variable {s : String} {operator operator' : Operator}

theorem isKeyword_token (operator : Operator) : IsKeyword operator.token := by
  cases operator <;> decide

/-- The tokens are in lower case already, so different ones differ in more than case. -/
theorem eq_of_sameUpToCase (same : SameUpToCase s operator.token)
    (same' : SameUpToCase s operator'.token) : operator = operator' := by
  have token : operator.token = operator'.token :=
    ((isKeyword_token operator).lower_eq_iff.mpr same).symm.trans
      ((isKeyword_token operator').lower_eq_iff.mpr same')
  exact Option.some.inj
    ((ofToken?_eq_some_iff.mpr token).symm.trans (ofToken?_eq_some_iff.mpr rfl))

theorem token_eq_iff : operator.token = lower s ↔ SameUpToCase s operator.token := by
  rw [eq_comm, (isKeyword_token operator).lower_eq_iff]

theorem read_eq_ok_iff : read s = .ok operator ↔ SameUpToCase (trim s) operator.token := by
  rw [← token_eq_iff, ← tokenOf, ← ofToken?_eq_some_iff]
  unfold read
  split
  · rename_i found
    simp [found]
  · rename_i missing
    simp [missing]

end Operator

/-! ## Tokens in clauses -/

namespace Clause

variable {segment property token : String} {pieces : List String} {operator : Operator}

/-- The segment is read as far as the operator: it is a clause with the operator, or
nothing but the operator's values is missing. -/
def Names (segment : String) (operator : Operator) : Prop :=
  (∃ c, parse segment = .ok c ∧ c.operator = operator) ∨
    ∃ property, parse segment = .error (.valueRequired property operator)

theorem names_of_token (written : Written segment property token pieces)
    (named : trim property ≠ "") (token_eq : operator.token = lower (trim token)) :
    Names segment operator := by
  have read := parse_of_token written named token_eq
  cases made : ofParts (trim property) operator (valuesOf pieces) with
  | ok c =>
      obtain ⟨-, -, -, same, -⟩ := ofParts_eq_ok_iff.mp made
      exact .inl ⟨c, read.trans made, same⟩
  | error e =>
      obtain ⟨-, -, rfl⟩ := (ofParts_eq_error_iff (isBlank_trim_eq_false named)).mp made
      exact .inr ⟨_, read.trans made⟩

theorem Names.unique {operator' : Operator} (names : Names segment operator)
    (names' : Names segment operator') : operator = operator' := by
  rcases names with ⟨c, parsed, rfl⟩ | ⟨property, parsed⟩
  · rcases names' with ⟨c', parsed', rfl⟩ | ⟨property, parsed'⟩
    · rw [Except.ok.inj (parsed.symm.trans parsed')]
    · cases parsed.symm.trans parsed'
  · rcases names' with ⟨c', parsed', -⟩ | ⟨property', parsed'⟩
    · cases parsed.symm.trans parsed'
    · injection parsed.symm.trans parsed' with same
      injection same

/-- A segment names the operator of its token, unless the property is missing. -/
theorem names_iff (written : Written segment property token pieces) :
    Names segment operator ↔
      trim property ≠ "" ∧ SameUpToCase (trim token) operator.token := by
  rw [← Operator.token_eq_iff]
  refine ⟨fun names => ?_, fun ⟨named, token_eq⟩ => names_of_token written named token_eq⟩
  -- the segment fails before the values are read, unless there is a token in it
  by_cases missing : trim property = "" ∨ trim token = ""
  · rw [Names, parse_of_partless written missing] at names
    simp at names
  · obtain ⟨named, tokened⟩ := not_or.mp missing
    refine ⟨named, ?_⟩
    by_cases known : ∃ operator : Operator, operator.token = lower (trim token)
    · obtain ⟨operator', token_eq⟩ := known
      rwa [names.unique (names_of_token written named token_eq)]
    · rw [Names, parse_of_unknown written named tokened (not_exists.mp known)] at names
      simp at names

end Clause

/-! ## Truth values -/

namespace Literal

variable {s literal : String} {v : Value} {b : Bool}

theorem isKeyword_truth (b : Bool) : IsKeyword (if b then "true" else "false") := by
  cases b <;> decide

theorem readBool_eq_some_iff :
    readBool s = some b ↔ SameUpToCase s (if b then "true" else "false") := by
  rw [← (isKeyword_truth b).lower_eq_iff]
  unfold readBool
  split
  · rename_i yes
    cases b <;> simp [yes]
  · rename_i notYes
    split
    · rename_i no
      cases b <;> simp [no]
    · rename_i notNo
      cases b <;> simp [notYes, notNo]

theorem read_bool_eq_ok_iff (filled : isBlank literal = false) :
    read .bool literal = .ok b ↔ readBool (trim literal) = some b := by
  rw [isBlank_eq_false_iff] at filled
  unfold read
  simp only [if_neg filled]
  split
  · rename_i b' found
    rw [found]
    exact ok_eq_ok_iff
  · rename_i missing
    rw [missing]
    exact iff_of_false nofun nofun

theorem constant_bool_eq_ok_iff : constant .bool literal = .ok v ↔
    ∃ b, v = .bool b ∧ SameUpToCase (trim literal) (if b then "true" else "false") := by
  simp only [constant_eq_ok_iff, ← readBool_eq_some_iff]
  cases filled : isBlank literal with
  | true =>
      -- no truth value is written with nothing
      have neither : ∀ b, readBool (trim literal) ≠ some b := by
        rw [trim_eq_empty_iff.mpr filled]
        decide +kernel
      simp [read_eq_error_of_isBlank filled, neither]
  | false =>
      constructor
      · rintro ⟨b, found, rfl⟩
        exact ⟨b, rfl, (read_bool_eq_ok_iff filled).mp found⟩
      · rintro ⟨b, rfl, found⟩
        exact ⟨b, (read_bool_eq_ok_iff filled).mpr found, rfl⟩

end Literal

/-! ## All keywords -/

/-- An operator is read where its token stands, up to the case of ASCII letters, by
itself as well as in a clause, and there is no text that is the token of two of them.
The same goes for the truth values. Whatever is read in one of these ways has only
ASCII characters between the blanks around it. -/
theorem keywords_up_to_case :
    (∀ s operator, Operator.read s = .ok operator ↔ SameUpToCase (trim s) operator.token) ∧
    (∀ segment property token pieces operator,
      Clause.Written segment property token pieces →
        (Clause.Names segment operator ↔
          trim property ≠ "" ∧ SameUpToCase (trim token) operator.token)) ∧
    (∀ s (operator operator' : Operator), SameUpToCase s operator.token →
      SameUpToCase s operator'.token → operator = operator') ∧
    (∀ literal v, Literal.constant .bool literal = .ok v ↔
      ∃ b, v = .bool b ∧ SameUpToCase (trim literal) (if b then "true" else "false")) ∧
    (∀ s, ((∃ operator, Operator.read s = .ok operator) ∨
        ∃ v, Literal.constant .bool s = .ok v) → ∀ c ∈ (trim s).toList, c.toNat < 0x80) ∧
    ∀ segment property token pieces operator, Clause.Written segment property token pieces →
      Clause.Names segment operator → ∀ c ∈ (trim token).toList, c.toNat < 0x80 := by
  refine ⟨fun s operator => Operator.read_eq_ok_iff,
    fun segment property token pieces operator => Clause.names_iff,
    fun s operator operator' => Operator.eq_of_sameUpToCase,
    fun literal v => Literal.constant_bool_eq_ok_iff, ?_, ?_⟩
  · rintro s (⟨operator, read⟩ | ⟨v, read⟩)
    · exact operator.isKeyword_token.ascii (Operator.read_eq_ok_iff.mp read)
    · obtain ⟨b, -, same⟩ := Literal.constant_bool_eq_ok_iff.mp read
      exact (Literal.isKeyword_truth b).ascii same
  · intro segment property token pieces operator written names
    exact operator.isKeyword_token.ascii ((Clause.names_iff written).mp names).2

/-- The Kelvin sign has a small letter in ASCII, and the dotted capital I one that
starts with such a letter, but no keyword comes of them, nor of a long s. -/
theorem keywords_up_to_case_foreign :
    lower "\u212a" = "k" ∧ lower "\u0130n" = "i\u0307n" ∧
    Operator.read " StartsWITH\u3000" = .ok .startsWith ∧
    (∀ operator, Operator.read "\u0130n" ≠ .ok operator) ∧
    Clause.Names "Age| IN" .oneOf ∧
    Literal.constant .bool "\tfAlSe" = .ok (.bool false) ∧
    ∀ v, Literal.constant .bool "fal\u017fe" ≠ .ok v := by
  obtain ⟨read, named, -, truth, plain, -⟩ := keywords_up_to_case
  have written : Clause.Written "Age| IN" "Age" " IN" [] :=
    .bare (by decide) (by decide) (by decide)
  refine ⟨by decide +kernel, by decide +kernel, (read _ _).mpr (by decide +kernel), ?_,
    (named _ _ _ _ _ written).mpr (by decide +kernel),
    (truth _ _).mpr ⟨false, rfl, by decide +kernel⟩, ?_⟩
  · intro operator found
    have ascii := plain _ (.inl ⟨operator, found⟩) '\u0130' (by decide +kernel)
    exact absurd ascii (by decide)
  · intro v found
    have ascii := plain _ (.inr ⟨v, found⟩) '\u017f' (by decide +kernel)
    exact absurd ascii (by decide)

end RecordFilter
