import RecordFilter.Proofs.LowerCase
import RecordFilter.Proofs.Results
import RecordFilter.Proofs.Trimming

/-!
# The grammar of clauses

How a segment has to be written to be a clause: a property, the token of an
operator and, for an operator that compares with values, a list in which there
is one, with bars in between. Everything else is refused, and the first part
from the left that is wrong decides how.
-/

namespace RecordFilter

open Text

/-! ## Tokens -/

namespace Operator

theorem ofToken?_eq_some_iff {token : String} {operator : Operator} :
    ofToken? token = some operator ↔ operator.token = token := by
  constructor
  · intro found
    simpa using List.find?_some found
  · rintro rfl
    cases operator <;> rfl

theorem ofToken?_eq_none_iff {token : String} :
    ofToken? token = none ↔ ∀ operator : Operator, operator.token ≠ token := by
  simp only [Option.eq_none_iff_forall_ne_some, ne_eq, ofToken?_eq_some_iff]

theorem token_ne_empty (operator : Operator) : operator.token ≠ "" := by
  cases operator <;> decide

end Operator

namespace Clause

/-! ## Making a clause -/

section Parts

variable {property : String} {operator : Operator} {values : List String} {c : Clause}

theorem ext {c c' : Clause} (property : c.property = c'.property)
    (operator : c.operator = c'.operator) (values : c.values = c'.values) : c = c' := by
  cases c
  cases c'
  cases property
  cases operator
  cases values
  rfl

theorem ofParts_eq_ok_iff : ofParts property operator values = .ok c ↔
    isBlank property = false ∧ (operator.takesValues = true → values ≠ []) ∧
      c.property = property ∧ c.operator = operator ∧
      c.values = if operator.takesValues then values else [] := by
  unfold ofParts
  split
  · rename_i blank
    simp [blank]
  · rename_i named
    split
    · rename_i takes
      split
      · rename_i empty
        simp [takes, List.isEmpty_iff.mp empty]
      · rename_i some
        rw [Except.ok.injEq]
        constructor
        · rintro rfl
          exact ⟨by simpa using named, fun _ => by simpa using some, rfl, rfl, rfl⟩
        · rintro ⟨-, -, property, operator, same⟩
          exact ext property.symm operator.symm same.symm
    · rename_i takes
      rw [Except.ok.injEq]
      constructor
      · rintro rfl
        exact ⟨by simpa using named, fun h => absurd h takes, rfl, rfl, rfl⟩
      · rintro ⟨-, -, property, operator, none⟩
        exact ext property.symm operator.symm none.symm

/-- Of a property that is not blank, only the values can be missing. -/
theorem ofParts_eq_error_iff {e : FilterError} (named : isBlank property = false) :
    ofParts property operator values = .error e ↔
      operator.takesValues = true ∧ values = [] ∧ e = .valueRequired property operator := by
  unfold ofParts
  rw [dif_neg (by simp [named])]
  split
  · rename_i takes
    split
    · rename_i empty
      simp [takes, List.isEmpty_iff.mp empty, eq_comm]
    · rename_i some
      simp only [reduceCtorEq, false_iff, not_and]
      intro _ none
      exact absurd (List.isEmpty_iff.mpr none) some
  · rename_i takes
    simp [takes]

end Parts

/-! ## Written parts -/

/-- A segment is written with these parts: a property, a token and, behind a
second bar, the pieces of a list. Only the list may have further bars in it. -/
inductive Written (segment property token : String) : List String → Prop
  | bare : segment = property ++ "|" ++ token →
      '|' ∉ property.toList → '|' ∉ token.toList → Written segment property token []
  | listed {pieces : List String} :
      segment = property ++ "|" ++ token ++ "|" ++ String.intercalate "," pieces →
      '|' ∉ property.toList → '|' ∉ token.toList →
      pieces ≠ [] → (∀ piece ∈ pieces, ',' ∉ piece.toList) →
      Written segment property token pieces

/-- The values in a list: its pieces without blanks around them. Blank pieces
are no values. -/
def valuesOf (pieces : List String) : List String :=
  (pieces.filter fun piece => !isBlank piece).map trim

variable {segment property token : String} {pieces : List String}

theorem valuesOf_eq_nil_iff : valuesOf pieces = [] ↔ ∀ piece ∈ pieces, isBlank piece = true := by
  simp [valuesOf]

theorem valuesOf_ne_nil_iff : valuesOf pieces ≠ [] ↔ ∃ piece ∈ pieces, isBlank piece = false := by
  simp [valuesOf_eq_nil_iff]

theorem splitValues_intercalate (some : pieces ≠ []) (h : ∀ piece ∈ pieces, ',' ∉ piece.toList) :
    splitValues (String.intercalate "," pieces) = valuesOf pieces := by
  have comma : ("," : String) = String.ofList [','] := rfl
  rw [splitValues, valuesOf, comma, pieces_intercalate some h, List.filter_map]
  refine congrArg (List.map trim) (List.filter_congr ?_)
  intro piece _
  rw [Function.comp_apply, Bool.eq_iff_iff]
  simp [isBlank_eq_false_iff]

/-- A segment with a bar in it is written in one way or the other. -/
theorem exists_written (bar : '|' ∈ segment.toList) :
    ∃ property token pieces, Written segment property token pieces := by
  obtain ⟨property, rest, outside, rfl⟩ := exists_cut bar
  by_cases second : '|' ∈ rest.toList
  · obtain ⟨token, list, inside, rfl⟩ := exists_cut second
    refine ⟨property, token, Text.pieces ',' list, .listed ?_ outside inside
      (pieces_ne_nil ',' list) fun piece => not_mem_of_mem_pieces⟩
    have joined : String.intercalate "," (Text.pieces ',' list) = list := intercalate_pieces ',' list
    rw [joined]
    simp only [String.append_assoc]
  · exact ⟨property, rest, [], .bare rfl outside second⟩

/-- The two cuts find the parts of a segment. -/
theorem Written.cuts (h : Written segment property token pieces) : ∃ rest list,
    cut '|' segment = (property, some rest) ∧ cut '|' rest = (token, list) ∧
      splitValues (list.getD "") = valuesOf pieces := by
  have bar : ("|" : String) = String.ofList ['|'] := rfl
  cases h with
  | bare same outside inside =>
      refine ⟨token, none, ?_, cut_of_not_mem inside, by decide +kernel⟩
      rw [same, bar, cut_append token outside]
  | listed same outside inside listed apart =>
      refine ⟨token ++ "|" ++ String.intercalate "," pieces,
        some (String.intercalate "," pieces), ?_, ?_, splitValues_intercalate listed apart⟩
      · have front : segment =
            property ++ "|" ++ (token ++ "|" ++ String.intercalate "," pieces) := by
          simp only [same, String.append_assoc]
        rw [front, bar, cut_append _ outside]
      · rw [bar, cut_append _ inside]

theorem parse_of_no_bar (h : '|' ∉ segment.toList) :
    parse segment = .error (.malformedClause segment) := by
  unfold parse
  rw [cut_of_not_mem h]

/-! ## The grammar -/

/-- The segment is written with parts that make a clause: the property is not
blank, the token is that of the operator, and there is a value in the list if
the operator takes any. -/
structure Grammatical (segment property token : String) (pieces : List String)
    (operator : Operator) : Prop where
  written : Written segment property token pieces
  named : trim property ≠ ""
  token_eq : operator.token = lower (trim token)
  valued : operator.takesValues = true → ∃ piece ∈ pieces, isBlank piece = false

/-- What is wrong with a segment that is not grammatical. -/
inductive Rejects (segment : String) : FilterError → Prop
  | barless : '|' ∉ segment.toList → Rejects segment (.malformedClause segment)
  | partless {property token : String} {pieces : List String} :
      Written segment property token pieces → trim property = "" ∨ trim token = "" →
      Rejects segment (.malformedClause segment)
  | unknown {property token : String} {pieces : List String} :
      Written segment property token pieces → trim property ≠ "" → trim token ≠ "" →
      (∀ operator : Operator, operator.token ≠ lower (trim token)) →
      Rejects segment (.unknownOperator (lower (trim token)) segment)
  | valueless {property token : String} {pieces : List String} {operator : Operator} :
      Written segment property token pieces → trim property ≠ "" →
      operator.token = lower (trim token) → operator.takesValues = true →
      (∀ piece ∈ pieces, isBlank piece = true) →
      Rejects segment (.valueRequired (trim property) operator)

variable {operator : Operator} {c : Clause} {e : FilterError}

/-- A missing part is found before the token is looked up. -/
theorem parse_of_partless (written : Written segment property token pieces)
    (missing : trim property = "" ∨ trim token = "") :
    parse segment = .error (.malformedClause segment) := by
  obtain ⟨rest, list, first, second, -⟩ := written.cuts
  rw [← lower_eq_empty_iff (s := trim token)] at missing
  unfold parse Operator.tokenOf
  simp only [first, second, if_pos missing]

/-- The token is looked up before the values are read. -/
theorem parse_of_unknown (written : Written segment property token pieces)
    (named : trim property ≠ "") (tokened : trim token ≠ "")
    (foreign : ∀ operator : Operator, operator.token ≠ lower (trim token)) :
    parse segment = .error (.unknownOperator (lower (trim token)) segment) := by
  obtain ⟨rest, list, first, second, -⟩ := written.cuts
  rw [ne_eq, ← lower_eq_empty_iff] at tokened
  unfold parse Operator.tokenOf
  simp only [first, second, if_neg (not_or.mpr ⟨named, tokened⟩),
    Operator.ofToken?_eq_none_iff.mpr foreign]

/-- Parts that are right as far as the token are left to the values. -/
theorem parse_of_token (written : Written segment property token pieces)
    (named : trim property ≠ "") (token_eq : operator.token = lower (trim token)) :
    parse segment = ofParts (trim property) operator (valuesOf pieces) := by
  obtain ⟨rest, list, first, second, values⟩ := written.cuts
  have tokened : lower (trim token) ≠ "" := token_eq ▸ operator.token_ne_empty
  unfold parse Operator.tokenOf
  simp only [first, second, if_neg (not_or.mpr ⟨named, tokened⟩),
    Operator.ofToken?_eq_some_iff.mpr token_eq, values]

/-- No check of the parts is left that could fail. -/
theorem exists_parse_of_grammatical (h : Grammatical segment property token pieces operator) :
    ∃ c, ofParts (trim property) operator (valuesOf pieces) = .ok c ∧ parse segment = .ok c := by
  rw [parse_of_token h.written h.named h.token_eq]
  cases made : ofParts (trim property) operator (valuesOf pieces) with
  | ok c => exact ⟨c, rfl, rfl⟩
  | error e =>
      obtain ⟨takes, none, -⟩ := (ofParts_eq_error_iff (isBlank_trim_eq_false h.named)).mp made
      exact absurd none (valuesOf_ne_nil_iff.mpr (h.valued takes))

theorem parse_eq_error_of_rejects (h : Rejects segment e) : parse segment = .error e := by
  cases h with
  | barless absent => exact parse_of_no_bar absent
  | partless written missing => exact parse_of_partless written missing
  | unknown written named tokened foreign => exact parse_of_unknown written named tokened foreign
  | valueless written named token_eq takes blank =>
      rw [parse_of_token written named token_eq]
      exact (ofParts_eq_error_iff (isBlank_trim_eq_false named)).mpr
        ⟨takes, valuesOf_eq_nil_iff.mpr blank, rfl⟩

/-- Every segment is grammatical or rejected for one of the reasons. -/
theorem grammatical_or_rejects (segment : String) :
    (∃ property token pieces operator, Grammatical segment property token pieces operator) ∨
      ∃ e, Rejects segment e := by
  -- the cases are split in the order in which the checks are made
  by_cases bar : '|' ∈ segment.toList
  · obtain ⟨property, token, pieces, written⟩ := exists_written bar
    by_cases missing : trim property = "" ∨ trim token = ""
    · exact .inr ⟨_, .partless written missing⟩
    · obtain ⟨named, tokened⟩ := not_or.mp missing
      by_cases known : ∃ operator : Operator, operator.token = lower (trim token)
      · obtain ⟨operator, token_eq⟩ := known
        by_cases blank : operator.takesValues = true ∧ ∀ piece ∈ pieces, isBlank piece = true
        · exact .inr ⟨_, .valueless written named token_eq blank.1 blank.2⟩
        · refine .inl ⟨property, token, pieces, operator, written, named, token_eq, ?_⟩
          intro takes
          simpa [takes] using blank
      · exact .inr ⟨_, .unknown written named tokened (not_exists.mp known)⟩
  · exact .inr ⟨_, .barless bar⟩

/-- The clause of a grammatical segment has its parts. -/
theorem parse_eq_ok_iff : parse segment = .ok c ↔ ∃ property token pieces,
    Grammatical segment property token pieces c.operator ∧ c.property = trim property ∧
      c.values = if c.operator.takesValues then valuesOf pieces else [] := by
  constructor
  · intro parsed
    rcases grammatical_or_rejects segment with ⟨property, token, pieces, operator, h⟩ | ⟨e, h⟩
    · obtain ⟨c', made, parsed'⟩ := exists_parse_of_grammatical h
      obtain rfl := Except.ok.inj (parsed.symm.trans parsed')
      obtain ⟨-, -, named, rfl, values⟩ := ofParts_eq_ok_iff.mp made
      exact ⟨property, token, pieces, h, named, values⟩
    · rw [parse_eq_error_of_rejects h] at parsed
      cases parsed
  · rintro ⟨property, token, pieces, h, named, values⟩
    obtain ⟨c', made, parsed⟩ := exists_parse_of_grammatical h
    obtain ⟨-, -, named', operator', values'⟩ := ofParts_eq_ok_iff.mp made
    rw [parsed, ext (named.trans named'.symm) operator'.symm (values.trans values'.symm)]

theorem parse_eq_error_iff : parse segment = .error e ↔ Rejects segment e := by
  constructor
  · intro failed
    rcases grammatical_or_rejects segment with ⟨property, token, pieces, operator, h⟩ | ⟨e', h⟩
    · obtain ⟨c, -, parsed⟩ := exists_parse_of_grammatical h
      rw [failed] at parsed
      cases parsed
    · rw [parse_eq_error_of_rejects h] at failed
      obtain rfl := Except.error.inj failed
      exact h
  · exact parse_eq_error_of_rejects

/-- **The grammar.** A segment is read as a clause exactly when it is
grammatical. The clause has the property and the values as they are written but
for the blanks around them, and a test for null has no values whatever is
written. A clause can always be made of the parts once they are grammatical,
and a segment that is not grammatical is rejected for the leftmost reason. -/
theorem parse_grammar (segment : String) :
    (∀ c, parse segment = .ok c ↔ ∃ property token pieces,
      Grammatical segment property token pieces c.operator ∧ c.property = trim property ∧
        c.values = if c.operator.takesValues then valuesOf pieces else []) ∧
    (∀ property token pieces operator, Grammatical segment property token pieces operator →
      ∃ c, ofParts (trim property) operator (valuesOf pieces) = .ok c ∧ parse segment = .ok c) ∧
    ∀ e, parse segment = .error e ↔ Rejects segment e := by
  refine ⟨?_, ?_, ?_⟩
  · intro c
    exact parse_eq_ok_iff
  · intro property token pieces operator h
    exact exists_parse_of_grammatical h
  · intro e
    exact parse_eq_error_iff

/-- Bars in a list belong to its values, blank pieces are left out, and a token
may be in any case. Where the property is blank, nothing is said about the
token. -/
theorem parse_grammar_bars :
    (∃ c, parse " Name | IN |a|b, ,\u00a0c " = .ok c ∧ c.property = "Name" ∧
      c.values = ["a|b", "c"]) ∧
    parse " |like|a" = .error (.malformedClause " |like|a") := by
  have written : Written " Name | IN |a|b, ,\u00a0c " " Name " " IN " ["a|b", " ", "\u00a0c "] :=
    .listed (by decide +kernel) (by decide) (by decide) (by decide) (by decide)
  have grammatical : Grammatical " Name | IN |a|b, ,\u00a0c " " Name " " IN "
      ["a|b", " ", "\u00a0c "] .oneOf :=
    ⟨written, by decide +kernel, by decide +kernel, fun _ => ⟨"a|b", by simp, by decide +kernel⟩⟩
  refine ⟨?_, ?_⟩
  · obtain ⟨c, made, parsed⟩ := (parse_grammar " Name | IN |a|b, ,\u00a0c ").2.1 _ _ _ _ grammatical
    obtain ⟨-, -, property, -, values⟩ := ofParts_eq_ok_iff.mp made
    refine ⟨c, parsed, property.trans (by decide +kernel), values.trans (by decide +kernel)⟩
  · have written : Written " |like|a" " " "like" ["a"] :=
      .listed (by decide +kernel) (by decide) (by decide) (by decide) (by decide)
    exact ((parse_grammar " |like|a").2.2 _).mpr (.partless written (.inl (by decide +kernel)))

end Clause

end RecordFilter
