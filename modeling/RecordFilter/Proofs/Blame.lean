import RecordFilter.Proofs.Applicability
import RecordFilter.Proofs.Composition
import RecordFilter.Proofs.RoundTrip

/-!
# What an error blames

Every error that a filter ends with points at a part of the filter as it was
written, unless there are too many clauses in it. Segments are cut and trimmed,
tokens are put in lower case and lists are joined again on the way to an error,
but what it blames is never changed. Where the schema is at fault, this is the
whole filter, and otherwise a part of one segment.
-/

namespace RecordFilter

open Text Results

variable {T : Type}

namespace Text

/-! ## Parts of a text -/

/-- The first text stands somewhere in the second one, and is not empty. -/
def IsPart (part whole : String) : Prop :=
  part ≠ "" ∧ part.toList <:+: whole.toList

variable {part whole s t : String}

theorem IsPart.refl (some : s ≠ "") : IsPart s s :=
  ⟨some, List.infix_rfl⟩

theorem IsPart.trans (inner : IsPart part s) (outer : s.toList <:+: whole.toList) :
    IsPart part whole :=
  ⟨inner.1, inner.2.trans outer⟩

theorem trim_isInfix (s : String) : (trim s).toList <:+: s.toList := by
  rw [trim, String.toList_ofList]
  exact trimChars_isInfix s.toList

theorem isPart_trim (some : trim s ≠ "") : IsPart (trim s) s :=
  ⟨some, trim_isInfix s⟩

/-- By induction on the list: each text stands in what all of them make. -/
theorem isInfix_intercalate (separator : String) {texts : List String} (member : s ∈ texts) :
    s.toList <:+: (String.intercalate separator texts).toList := by
  induction texts with
  | nil => cases member
  | cons first rest ih =>
      cases rest with
      | nil =>
          obtain rfl := List.mem_singleton.mp member
          have alone : String.intercalate separator [s] = s := String.intercalate_singleton
          exact alone.symm ▸ List.infix_rfl
      | cons second more =>
          rw [String.intercalate_cons_cons, String.toList_append, String.toList_append]
          rcases List.mem_cons.mp member with rfl | later
          · exact (List.prefix_append_of_prefix (List.prefix_append _ _)).isInfix
          · exact (ih later).trans (List.suffix_append _ _).isInfix

theorem isInfix_of_mem_pieces {separator : Char} {piece : String}
    (member : piece ∈ pieces separator s) : piece.toList <:+: s.toList := by
  have inside := isInfix_intercalate (String.ofList [separator]) member
  rwa [intercalate_pieces] at inside

end Text

/-- The error blames a part of the text. -/
def FilterError.Blames (e : FilterError) (text : String) : Prop :=
  ∃ s, e.blamed? = some s ∧ IsPart s text

namespace Clause

/-! ## Segments -/

variable {segment property token : String} {pieces : List String} {c : Clause}
  {e : FilterError}

/-- The property and the pieces of the list stand in the segment. -/
theorem Written.isInfix (h : Written segment property token pieces) :
    property.toList <:+: segment.toList ∧ ∀ piece ∈ pieces, piece.toList <:+: segment.toList := by
  cases h with
  | bare same =>
      refine ⟨?_, by simp⟩
      rw [same, String.toList_append, String.toList_append, List.append_assoc]
      exact (List.prefix_append _ _).isInfix
  | listed same =>
      rw [same]
      refine ⟨?_, ?_⟩
      · simp only [String.toList_append, List.append_assoc]
        exact (List.prefix_append _ _).isInfix
      · intro piece member
        rw [String.toList_append]
        exact (isInfix_intercalate "," member).trans (List.suffix_append _ _).isInfix

/-- What a segment is rejected with blames a part of it. -/
theorem blames_of_rejects (some : segment ≠ "") (rejects : Rejects segment e) :
    e.Blames segment := by
  cases rejects with
  | barless | partless | unknown => exact ⟨segment, rfl, .refl some⟩
  | valueless written named => exact ⟨_, rfl, (isPart_trim named).trans written.isInfix.1⟩

/-- The parts of a clause are parts of the segment that it is read from. -/
theorem isPart_of_parse (parsed : parse segment = .ok c) :
    IsPart c.property segment ∧ ∀ v ∈ c.values, IsPart v segment := by
  have named : trim c.property ≠ "" := isBlank_eq_false_iff.mp c.property_notBlank
  obtain ⟨property, token, pieces, written, same, values⟩ := exists_written_of_parse parsed
  refine ⟨?_, ?_⟩
  · rw [same, trim_trim] at named
    rw [same]
    exact (isPart_trim named).trans written.isInfix.1
  · intro v member
    obtain ⟨piece, among, rfl, valued⟩ := values v member
    exact (isPart_trim valued).trans (written.isInfix.2 piece among)

/-! ## Clauses -/

/-- A clause that fails on a field blames its property or one of its values. -/
theorem blamed_of_fails {t : ValueType} (fails : c.Fails t e) :
    e.blamed? = some c.property ∨ ∃ v ∈ c.values, e.blamed? = some v := by
  have unreadable : ∀ v ∈ c.values, Unreadable t v e → ∃ v ∈ c.values, e.blamed? = some v := by
    intro v member failed
    obtain ⟨fault, -, rfl⟩ := Literal.constant_eq_error_iff.mp failed
    exact ⟨v, member, rfl⟩
  have leftmost : Leftmost (Unreadable t) c.values e → ∃ v ∈ c.values, e.blamed? = some v := by
    rintro ⟨before, v, after, same, -, failed⟩
    exact unreadable v (by simp [same]) failed
  cases operator : c.operator <;> simp only [Fails, operator] at fails
  case equals | notEquals =>
    obtain ⟨v, rest, values, failed⟩ := fails
    exact .inr (unreadable v (by simp [values]) failed)
  case greater | greaterOrEqual | less | lessOrEqual =>
    rcases fails with ⟨-, rfl⟩ | ⟨-, v, rest, values, failed⟩
    · exact .inl rfl
    · exact .inr (unreadable v (by simp [values]) failed)
  case contains | startsWith | endsWith =>
    rcases fails with ⟨-, rfl⟩ | ⟨-, v, rest, values, -, rfl⟩
    · exact .inl rfl
    · exact .inr ⟨v, by simp [values], rfl⟩
  case between =>
    rcases fails with ⟨-, rfl⟩ | ⟨-, -, rfl⟩ | ⟨-, -, failed⟩
    · exact .inl rfl
    · exact .inl rfl
    · exact .inr (leftmost failed)
  case oneOf => exact .inr (leftmost fails)

/-- A clause that cannot be compiled blames its property or one of its values,
unless the schema is at fault. -/
theorem blamed_of_conditionIn {schema : Schema T} (failed : c.conditionIn schema = .error e) :
    (∃ fault, e = .schema fault) ∨
      e.blamed? = some c.property ∨ ∃ v ∈ c.values, e.blamed? = some v := by
  rcases bind_eq_error_iff.mp failed with unresolved | ⟨r, -, failed⟩
  · rcases Schema.resolve_eq_error_iff.mp unresolved with ⟨rfl, -⟩ | ⟨rfl, -⟩
    · exact .inr (.inl rfl)
    · exact .inl ⟨_, rfl⟩
  · exact .inr (blamed_of_fails (condition_eq_error_iff.mp failed))

end Clause

namespace Policy

variable {policy : Policy} {schema : Schema T} {filter segment : String} {e : FilterError}

/-! ## Filters -/

theorem blames_of_refuses (some : segment ≠ "") (refused : policy.Refuses segment e) :
    e.Blames segment := by
  cases refused with
  | unreadable failed => exact Clause.blames_of_rejects some (Clause.parse_eq_error_iff.mp failed)
  | forbidden parsed => exact ⟨_, rfl, (Clause.isPart_of_parse parsed).1⟩

/-- The three ways in which a filter fails, by what is to blame: the number of
its segments, the schema, or something in one of the segments. -/
theorem parse_error_cases (failed : policy.parse schema filter = .error e) :
    (∃ count limit, e = .tooManyClauses count limit) ∨
    (∃ fault, e = .unexpected filter fault ∧ filter ≠ "") ∨
    (e.isFromFilter = true ∧ ∃ segment ∈ Clause.segments filter, e.Blames segment) := by
  cases read : policy.clauses filter with
  | error cause =>
      rw [parse_of_clauses_error schema read] at failed
      obtain rfl := Except.error.inj failed
      rcases policy.room_or_excess (Clause.segments filter).length with room | excess
      · obtain ⟨before, segment, after, same, -, refused⟩ := (clauses_eq_error_iff room).mp read
        have member : segment ∈ Clause.segments filter := by simp [same]
        have some := (Clause.mem_segments_iff.mp member).1
        exact .inr (.inr ⟨isFromFilter_of_clauses read, segment, member,
          blames_of_refuses some refused⟩)
      · obtain ⟨limit, limited, excess⟩ := excess
        rw [clauses_of_excess limited excess] at read
        exact .inl ⟨_, limit, (Except.error.inj read).symm⟩
  | ok cs =>
      obtain ⟨cause, ⟨before, c, after, rfl, -, uncompiled⟩, rfl⟩ :=
        (parse_eq_error_iff_leftmost read).mp failed
      rw [Predicate.ofClause_eq_error_iff] at uncompiled
      -- the clause that is to blame has a segment
      obtain ⟨segment, member, parsed, -⟩ :=
        exists_of_forall₂ (clauses_eq_ok_iff.mp read).2.flip c (by simp)
      have parts := Clause.isPart_of_parse parsed
      rcases Clause.conditionIn_eq_error uncompiled with ours | ⟨rfl, -⟩
      · rw [FilterError.inFilter_of_isFromFilter ours]
        refine .inr (.inr ⟨ours, segment, member, ?_⟩)
        rcases Clause.blamed_of_conditionIn uncompiled with ⟨fault, rfl⟩ | property | value
        · cases ours
        · exact ⟨_, property, parts.1⟩
        · obtain ⟨v, among, blamed⟩ := value
          exact ⟨v, blamed, parts.2 v among⟩
      · refine .inr (.inl ⟨_, rfl, ?_⟩)
        rintro rfl
        rw [Clause.segments_eq_nil rfl] at member
        cases member

/-- **What an error blames.** A filter that is refused for anything but the
number of its clauses is refused with a part of it that is to blame, as it was
written. That part is the whole filter if the schema is at fault, and otherwise
it lies within one piece between semicolons, without the blanks around this. -/
theorem parse_blames (policy : Policy) (schema : Schema T) (filter : String) {e : FilterError}
    (failed : policy.parse schema filter = .error e) :
    (e.blamed? = none ↔ ∃ count limit, e = .tooManyClauses count limit) ∧
    (∀ s, e.blamed? = some s → IsPart s filter) ∧
    (∀ text fault, e = .unexpected text fault → e.blamed? = some filter) ∧
    ((∀ count limit, e ≠ .tooManyClauses count limit) →
      (∀ text fault, e ≠ .unexpected text fault) →
      ∃ s, e.blamed? = some s ∧ ∃ piece ∈ pieces ';' filter, IsPart s (trim piece)) := by
  rcases parse_error_cases failed with
    ⟨count, limit, rfl⟩ | ⟨fault, rfl, some⟩ | ⟨ours, segment, member, s, blamed, part⟩
  · refine ⟨⟨fun _ => ⟨count, limit, rfl⟩, fun _ => rfl⟩, nofun, nofun, ?_⟩
    intro few
    exact absurd rfl (few count limit)
  · refine ⟨⟨nofun, nofun⟩, ?_, ?_, ?_⟩
    · intro s whole
      obtain rfl := Option.some.inj whole
      exact .refl some
    · intro text fault' same
      rfl
    · intro _ expected
      exact absurd rfl (expected filter fault)
  · obtain ⟨-, piece, among, rfl⟩ := Clause.mem_segments_iff.mp member
    refine ⟨?_, ?_, ?_, ?_⟩
    · rw [blamed]
      refine ⟨nofun, ?_⟩
      rintro ⟨count, limit, rfl⟩
      cases blamed
    · intro s' blamed'
      obtain rfl := Option.some.inj (blamed.symm.trans blamed')
      exact part.trans ((trim_isInfix piece).trans (isInfix_of_mem_pieces among))
    · rintro text fault rfl
      cases ours
    · intro _ _
      exact ⟨s, blamed, piece, among, part⟩

/-- The second bound of a range is no number. It is reported as it stands in the
second piece, and a token that is unknown with the whole piece and in the case
in which it is written. -/
theorem parse_blames_person :
    (∃ e, Policy.parse {} Person.schema "nickname|isnull; Age | BETWEEN |17 , Xy " = .error e ∧
      ∃ piece ∈ pieces ';' "nickname|isnull; Age | BETWEEN |17 , Xy ",
        e.Blames (trim piece) ∧ e.blamed? = some "Xy") ∧
    ∃ e, Policy.parse {} Person.schema "Age|LIKE|Xy;;" = .error e ∧
      IsPart "Age|LIKE|Xy" "Age|LIKE|Xy;;" ∧ e.blamed? = some "Age|LIKE|Xy" := by
  have bound : Policy.parse {} Person.schema "nickname|isnull; Age | BETWEEN |17 , Xy " =
      .error (.invalidValue "Xy" (.int ⟨true, .w32⟩) (.int .invalidDigit)) :=
    map_eq_error_iff (f := fun _ => ()) |>.mp (by decide +kernel)
  have token : Policy.parse {} Person.schema "Age|LIKE|Xy;;" =
      .error (.unknownOperator "like" "Age|LIKE|Xy") :=
    map_eq_error_iff (f := fun _ => ()) |>.mp (by decide +kernel)
  refine ⟨⟨_, bound, ?_⟩, _, token, ?_, rfl⟩
  · obtain ⟨s, blamed, piece, among, part⟩ :=
      (parse_blames {} Person.schema _ bound).2.2.2 nofun nofun
    exact ⟨piece, among, ⟨s, blamed, part⟩, rfl⟩
  · exact (parse_blames {} Person.schema _ token).2.1 _ rfl

end Policy

end RecordFilter
