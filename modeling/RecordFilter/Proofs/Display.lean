import RecordFilter.Proofs.CalendarText
import RecordFilter.Proofs.Composition
import RecordFilter.Proofs.FieldTest
import RecordFilter.Proofs.IntegerLiteral
import RecordFilter.Proofs.Kinds
import RecordFilter.Proofs.NormalForm
import RecordFilter.Proofs.RoundTrip
import RecordFilter.Proofs.UuidText

/-!
# Values written as literals

Integers, truth values, dates, date-times and UUIDs are shown in conditions as
literals for them. Such a literal has no blanks and none of the separators of
filters in it, so it can also stand in a clause, and the clause that compares a
field with it holds for the records that have the value.
-/

namespace RecordFilter

open Number Calendar Results Text

variable {T : Type}

/-! ## Texts without breaks -/

namespace Text

/-- The character is no blank and separates neither clauses nor values. -/
def isSolidChar (c : Char) : Bool :=
  !isBlankChar c && c != ',' && c != ';'

/-- The text is not empty, and there is nothing in it at which the text of a
filter is cut or trimmed. -/
def IsSolid (s : String) : Prop :=
  s ≠ "" ∧ ∀ c ∈ s.toList, isSolidChar c = true

section IsSolid

variable {s : String} {cs : List Char} {c : Char}

theorem isSolid_ofList (some : cs ≠ []) (solid : ∀ c ∈ cs, isSolidChar c = true) :
    IsSolid (String.ofList cs) := by
  refine ⟨mt String.ofList_eq_empty_iff.mp some, ?_⟩
  rwa [String.toList_ofList]

theorem isSolidChar_iff :
    isSolidChar c = true ↔ isBlankChar c = false ∧ c ≠ ',' ∧ c ≠ ';' := by
  simp [isSolidChar, and_assoc]

theorem isSolidChar_of_isDigit (digit : c.isDigit = true) : isSolidChar c = true := by
  refine isSolidChar_iff.mpr ⟨isBlankChar_of_isDigit digit, ?_, ?_⟩
  · rintro rfl
    cases digit
  · rintro rfl
    cases digit

theorem IsSolid.isTrimmed (h : IsSolid s) : IsTrimmed s := by
  have none : ∀ c ∈ s.toList, isBlankChar c = false :=
    fun c member => (isSolidChar_iff.mp (h.2 c member)).1
  refine ⟨h.1, trim_eq_self_iff.mpr (trimChars_eq_self_iff.mpr ⟨?_, ?_⟩)⟩
  · cases chars : s.toList with
    | nil => rfl
    | cons c rest =>
        have first := none c (chars ▸ List.mem_cons_self)
        rw [List.dropWhile_cons, first, if_neg Bool.false_ne_true]
  · refine List.rdropWhile_eq_self_iff.mpr ?_
    intro some
    rw [none _ (List.getLast_mem some)]
    exact Bool.false_ne_true

theorem IsSolid.comma_not_mem (h : IsSolid s) : ',' ∉ s.toList :=
  fun member => absurd (h.2 _ member) (by decide)

theorem IsSolid.semicolon_not_mem (h : IsSolid s) : ';' ∉ s.toList :=
  fun member => absurd (h.2 _ member) (by decide)

end IsSolid

end Text

/-! ## Texts of values -/

theorem Number.solid_digits (n : Nat) : ∀ c ∈ digits n, isSolidChar c = true :=
  fun _ member => isSolidChar_of_isDigit (isDigit_of_mem_digits member)

theorem Number.solid_padded (width n : Nat) : ∀ c ∈ padded width n, isSolidChar c = true :=
  fun _ member => isSolidChar_of_isDigit (isDigit_of_mem_padded member)

theorem Number.solid_signedDigits (n : Int) : ∀ c ∈ signedDigits n, isSolidChar c = true := by
  unfold signedDigits
  split
  · exact List.forall_mem_cons.mpr ⟨by decide, solid_digits _⟩
  · exact solid_digits _

theorem Number.signedDigits_ne_nil (n : Int) : signedDigits n ≠ [] := by
  unfold signedDigits
  split
  · exact List.cons_ne_nil _ _
  · exact digits_ne_nil _

namespace Calendar

theorem solid_yearText (year : Int) : ∀ c ∈ Date.yearText year, isSolidChar c = true := by
  unfold Date.yearText
  split
  · exact List.forall_mem_cons.mpr ⟨by decide, solid_padded _ _⟩
  · split
    · exact List.forall_mem_cons.mpr ⟨by decide, solid_padded _ _⟩
    · exact solid_padded _ _

theorem solid_fractionText (nano : Nat) :
    ∀ c ∈ TimeOfDay.fractionText nano, isSolidChar c = true := by
  unfold TimeOfDay.fractionText
  split
  · exact fun _ member => absurd member List.not_mem_nil
  · split
    · exact List.forall_mem_cons.mpr ⟨by decide, solid_padded _ _⟩
    · split
      · exact List.forall_mem_cons.mpr ⟨by decide, solid_padded _ _⟩
      · exact List.forall_mem_cons.mpr ⟨by decide, solid_padded _ _⟩

theorem Date.solid_chars (d : Date) : ∀ c ∈ d.chars, isSolidChar c = true := by
  simp only [chars, List.forall_mem_append, List.forall_mem_cons]
  exact ⟨⟨solid_yearText _, by decide, solid_padded _ _⟩, by decide, solid_padded _ _⟩

theorem TimeOfDay.solid_chars (t : TimeOfDay) : ∀ c ∈ t.chars, isSolidChar c = true := by
  simp only [chars_eq, List.forall_mem_append, List.forall_mem_cons]
  exact ⟨solid_padded _ _, by decide, solid_padded _ _, by decide, solid_padded _ _,
    solid_fractionText _⟩

theorem DateTime.solid_chars (t : DateTime) : ∀ c ∈ t.chars, isSolidChar c = true := by
  simp only [chars, List.forall_mem_append, List.forall_mem_cons]
  exact ⟨t.date.solid_chars, by decide, t.time.solid_chars⟩

end Calendar

theorem Uuid.solid_chars (u : Uuid) : ∀ c ∈ u.chars, isSolidChar c = true := by
  have digit : ∀ n, isSolidChar (hexDigit n) = true := by decide
  intro c member
  rcases eq_of_mem_chars member with rfl | ⟨n, rfl⟩
  · decide
  · exact digit n

/-! ## Literals -/

namespace Literal

variable {literal : String}

theorem read_dateTime_eq_ok_iff {t : DateTime} (some : isBlank literal = false) :
    read .dateTime literal = .ok t ↔ DateTime.read (trim literal).toList = .ok t := by
  rw [isBlank_eq_false_iff] at some
  unfold read
  exact (Eq.congr_left (if_neg some)).trans mapError_eq_ok_iff

theorem read_date_eq_ok_iff {d : Date} (some : isBlank literal = false) :
    read .date literal = .ok d ↔ Date.read (trim literal).toList = .ok d := by
  rw [isBlank_eq_false_iff] at some
  unfold read
  exact (Eq.congr_left (if_neg some)).trans mapError_eq_ok_iff

theorem read_uuid_eq_ok_iff {u : Uuid} (some : isBlank literal = false) :
    read .uuid literal = .ok u ↔ Uuid.read (trim literal).toList = .ok u := by
  rw [isBlank_eq_false_iff] at some
  unfold read
  exact (Eq.congr_left (if_neg some)).trans mapError_eq_ok_iff

end Literal

/-- The digits of a number are a literal for it. -/
theorem Number.IntType.writes_digits (t : IntType) (n : Nat) : t.Writes (digits n) n := by
  have bare : t.Writes (digits n) (ofDigits (digits n)) :=
    .bare (digits_ne_nil n) fun _ => isDigit_of_mem_digits
  rwa [ofDigits_digits] at bare

theorem Number.IntType.writes_signedDigits {t : IntType} (signed : t.signed = true) (n : Int) :
    t.Writes (signedDigits n) n := by
  unfold signedDigits
  split
  · have minus : t.Writes ('-' :: digits n.natAbs) (-(ofDigits (digits n.natAbs) : Int)) :=
      .minus signed (digits_ne_nil _) fun _ => isDigit_of_mem_digits
    have same : -(n.natAbs : Int) = n := by omega
    rwa [ofDigits_digits, same] at minus
  · have same : (n.natAbs : Int) = n := by omega
    have bare := t.writes_digits n.natAbs
    rwa [same] at bare

/-- A number of the type is shown as a literal for it. -/
theorem Number.IntType.writes_render (t : IntType) (n : t.Carrier) :
    t.Writes ((ValueType.int t).value n).render.toList n.val := by
  show t.Writes (if t.signed then Value.int n.val else .uint n.val.toNat).render.toList n.val
  split
  · rename_i signed
    show t.Writes (String.ofList (signedDigits n.val)).toList n.val
    rw [String.toList_ofList]
    exact writes_signedDigits signed n.val
  · rename_i unsigned
    have none : t.depth = 0 := if_neg unsigned
    have same : (n.val.toNat : Int) = n.val := by
      have least := n.property.1
      omega
    have writes := t.writes_digits n.val.toNat
    rw [same] at writes
    show t.Writes (String.ofList (digits n.val.toNat)).toList n.val
    rwa [String.toList_ofList]

/-! ## Types with a literal for each value -/

theorem Value.equals_iff_eq {m constant : Value} (some : constant ≠ .null)
    (exact : constant.kind ≠ .float) : m.Equals constant ↔ m = constant := by
  unfold Equals
  cases m <;> cases constant <;> simp_all [BEq.beq, equal, kind]

namespace ValueType

/-- Every value of the type is shown as a literal. -/
def isWritable : ValueType → Bool
  | .int _ | .bool | .dateTime | .date | .uuid => true
  | .float _ | .text | .enum _ _ | .object _ => false

variable {t : ValueType}

theorem isSolid_render (writable : t.isWritable = true) (x : t.Carrier) :
    IsSolid (t.value x).render := by
  cases t with
  | int t =>
      show IsSolid (if t.signed then Value.int x.val else .uint x.val.toNat).render
      split
      · exact isSolid_ofList (signedDigits_ne_nil _) (solid_signedDigits _)
      · exact isSolid_ofList (digits_ne_nil _) (solid_digits _)
  | bool => cases x <;> exact ⟨by decide, List.all_eq_true.mp rfl⟩
  | dateTime => exact isSolid_ofList (by simp [DateTime.chars]) (DateTime.solid_chars x)
  | date => exact isSolid_ofList (by simp [Date.chars]) (Date.solid_chars x)
  | uuid =>
      exact isSolid_ofList (List.ne_nil_of_length_eq_add_one (Uuid.length_chars x))
        (Uuid.solid_chars x)
  | float | text | enum | object => cases writable

theorem constant_render (writable : t.isWritable = true) (x : t.Carrier) :
    Literal.constant t (t.value x).render = .ok (t.value x) := by
  have solid := isSolid_render writable x
  have some := solid.isTrimmed.isBlank_eq_false
  have trimmed := solid.isTrimmed.2
  refine Literal.constant_eq_ok_iff.mpr ⟨x, ?_, rfl⟩
  cases t with
  | int t => exact (Literal.read_int_eq_ok_iff some).mpr (trimmed.symm ▸ t.writes_render x)
  | bool => cases x <;> rfl
  | dateTime =>
      exact (Literal.read_dateTime_eq_ok_iff some).mpr (trimmed.symm ▸ DateTime.read_text x)
  | date => exact (Literal.read_date_eq_ok_iff some).mpr (trimmed.symm ▸ Date.read_text x)
  | uuid => exact (Literal.read_uuid_eq_ok_iff some).mpr (trimmed.symm ▸ Uuid.read_text x)
  | float | text | enum | object => cases writable

/-- Values of such a type are equal only to themselves. -/
theorem equals_value_iff (writable : t.isWritable = true) (x : t.Carrier) {m : Value} :
    m.Equals (t.value x) ↔ m = t.value x := by
  refine Value.equals_iff_eq ?_ ?_
  · intro missing
    have kind := t.kind_value x
    rw [missing] at kind
    exact t.kind_ne_null kind.symm
  · rw [t.kind_value x]
    cases t with
    | int t => cases signed : t.signed <;> simp [kind, signed]
    | bool | dateTime | date | uuid => simp [kind]
    | float | text | enum | object => cases writable

end ValueType

/-! ## Filters of one clause -/

theorem Schema.resolve_trim {schema : Schema T} {path : String} {r : FieldRef}
    (resolved : schema.resolve path = .ok r) : schema.resolve (trim path) = .ok r := by
  rw [resolve_eq_ok_iff_means] at resolved ⊢
  unfold Means Spells at resolved ⊢
  rwa [Path.normalize_trim]

namespace Clause

variable {path text : String}

/-- A solid literal is all that stands behind the second bar. -/
theorem exists_parse_equals (named : isBlank path = false) (noBar : '|' ∉ path.toList)
    (solid : IsSolid text) : ∃ c, parse (path ++ "|eq|" ++ text) = .ok c ∧
      c.property = trim path ∧ c.operator = .equals ∧ c.values = [text] := by
  have some := solid.isTrimmed.isBlank_eq_false
  have written : Written (path ++ "|eq|" ++ text) path "eq" [text] := by
    refine .listed ?_ noBar (by decide) (List.cons_ne_nil _ _) ?_
    · simp [String.append_assoc]
    · simpa using solid.comma_not_mem
  have grammatical : Grammatical (path ++ "|eq|" ++ text) path "eq" [text] .equals :=
    ⟨written, isBlank_eq_false_iff.mp named, by decide +kernel,
      fun _ => ⟨text, List.mem_cons_self, some⟩⟩
  have one : valuesOf [text] = [text] := by
    rw [valuesOf, List.filter_singleton, some, Bool.not_false, cond_true, List.map_singleton,
      solid.isTrimmed.2]
  obtain ⟨c, made, parsed⟩ := exists_parse_of_grammatical grammatical
  obtain ⟨-, -, property, operator, values⟩ := ofParts_eq_ok_iff.mp made
  exact ⟨c, parsed, property, operator, values.trans one⟩

/-- The blanks in front of the path are around the segment, and those behind it
stay inside. -/
theorem exists_segments_equals (named : isBlank path = false) (noSemicolon : ';' ∉ path.toList)
    (solid : IsSolid text) : ∃ back, isBlank back = true ∧
      segments (path ++ "|eq|" ++ text) = [trim path ++ back ++ "|eq|" ++ text] := by
  obtain ⟨front, back, frontBlank, backBlank, padded⟩ := exists_pad path
  have trimmed : IsTrimmed (trim path ++ (back ++ "|eq|") ++ text) :=
    IsTrimmed.append ⟨isBlank_eq_false_iff.mp named, trim_trim path⟩ _ solid.isTrimmed
  have segment : trim (path ++ "|eq|" ++ text) = trim path ++ (back ++ "|eq|") ++ text := by
    have whole : path ++ "|eq|" ++ text = front ++ (trim path ++ (back ++ "|eq|") ++ text) := by
      nth_rewrite 1 [padded]
      simp only [String.append_assoc]
    rw [whole, trim_prepend _ frontBlank, trimmed.2]
  have apart : ';' ∉ (path ++ "|eq|" ++ text).toList := by
    simp [noSemicolon, solid.semicolon_not_mem]
  refine ⟨back, backBlank, ?_⟩
  have regrouped : trim path ++ back ++ "|eq|" = trim path ++ (back ++ "|eq|") :=
    String.append_assoc
  rw [regrouped, segments, pieces_eq_singleton apart, List.map_singleton, segment]
  exact List.filter_cons_of_pos (decide_eq_true trimmed.1)

end Clause

namespace Policy

variable {policy : Policy} {schema : Schema T} {filter path text : String} {c : Clause}

theorem allows_trim (allowed : policy.allows path = true) : policy.allows (trim path) = true := by
  unfold allows at allowed ⊢
  cases listed : policy.whitelist with
  | none => rfl
  | some w =>
      rw [listed] at allowed
      exact (Whitelist.allows_congr (Path.normalize_trim path)).trans allowed

/-- The one clause of a filter that compares a field with a literal. -/
theorem exists_clauses_equals (named : isBlank path = false) (noBar : '|' ∉ path.toList)
    (noSemicolon : ';' ∉ path.toList) (solid : IsSolid text)
    (allowed : policy.allows path = true) (room : policy.HasRoom 1) :
    ∃ c, policy.clauses (path ++ "|eq|" ++ text) = .ok [c] ∧
      c.property = trim path ∧ c.operator = .equals ∧ c.values = [text] := by
  obtain ⟨back, backBlank, segments⟩ := Clause.exists_segments_equals named noSemicolon solid
  have padded : trim (trim path ++ back) = trim path := by
    rw [trim_append _ backBlank, trim_trim]
  have stillNamed : isBlank (trim path ++ back) = false := by
    rwa [isBlank_eq_false_iff, padded, ← isBlank_eq_false_iff]
  have stillNoBar : '|' ∉ (trim path ++ back).toList := by
    rw [String.toList_append, List.mem_append, not_or]
    exact ⟨mt mem_of_mem_trim noBar, not_mem_of_isBlank (by decide) backBlank⟩
  obtain ⟨c, parsed, property, operator, values⟩ :=
    Clause.exists_parse_equals stillNamed stillNoBar solid
  rw [padded] at property
  refine ⟨c, clauses_eq_ok_iff.mpr ?_, property, operator, values⟩
  rw [segments]
  exact ⟨room, .cons ⟨parsed, property ▸ allows_trim allowed⟩ .nil⟩

/-- A filter of one clause is the condition of the clause. -/
theorem parse_of_single {p : Predicate schema} (read : policy.clauses filter = .ok [c])
    (made : Predicate.ofClause schema c = .ok p) : policy.parse schema filter = .ok p := by
  refine parse_eq_ok_iff.mpr ⟨[p.condition], ?_, Condition.always_meet _⟩
  rw [conditions, read]
  exact mapM_eq_ok_iff.mpr (.cons (Predicate.conditionIn_of_ofClause made) .nil)

/-- **Values as literals.** Every integer, truth value, date, date-time and UUID
is the constant of the literal as which it is shown. So it can be looked for: the
filter that compares a field with it is read, and holds for the records that have
the value in that field. -/
theorem parse_display (policy : Policy) (schema : Schema T) :
    (∀ (t : ValueType) (x : t.Carrier), t.isWritable = true →
      Literal.constant t (t.value x).render = .ok (t.value x)) ∧
    ∀ (path : String) (r : FieldRef) (f : Field T) (x : f.type.Carrier),
      isBlank path = false → '|' ∉ path.toList → ';' ∉ path.toList →
      schema.resolve path = .ok r → schema.fieldAt? r.index = some f →
      f.type.isWritable = true → policy.allows path = true → policy.HasRoom 1 →
      ∃ p, policy.parse schema (path ++ "|eq|" ++ (f.type.value x).render) = .ok p ∧
        ∀ record, p.holds record = true ↔ f.value record = f.type.value x := by
  refine ⟨fun t x writable => ValueType.constant_render writable x, ?_⟩
  intro path r f x named noBar noSemicolon resolved found writable allowed room
  obtain ⟨i, f', means, rfl⟩ := Schema.resolve_eq_ok_iff_means.mp resolved
  obtain rfl := Option.some.inj (means.1.1.symm.trans found)
  obtain ⟨c, read, property, operator, values⟩ := exists_clauses_equals named noBar noSemicolon
    (ValueType.isSolid_render writable x) allowed room
  have compiled : c.conditionIn schema =
      .ok (.compare (Schema.refTo f' i) .eq (f'.type.value x)) := by
    rw [Clause.conditionIn_of_resolve (property ▸ Schema.resolve_trim resolved),
      Clause.condition_of_comparison (by rw [operator]; rfl) values]
    exact map_eq_ok_iff.mpr ⟨_, ValueType.constant_render writable x, rfl⟩
  obtain ⟨p, made, condition⟩ := Predicate.exists_ofClause compiled
  refine ⟨p, parse_of_single read made, fun record => ?_⟩
  rw [Predicate.holds, condition, Clause.holds_compare found,
    ← ValueType.equals_value_iff writable x]
  rfl

/-- A leap second in a year before the first, and an age under a path with blanks
around it. -/
theorem parse_display_person :
    (∃ t : DateTime, t.date.year = -44 ∧ t.time.nano = 1500000000 ∧
      Literal.constant .dateTime "-0044-03-15T23:59:60.500" = .ok (.dateTime t)) ∧
    ∃ p, Policy.parse {} Person.schema " Age |eq|-5" = .ok p ∧
      ∀ record, p.holds record = true ↔ record.age.val = -5 := by
  refine ⟨?_, ?_⟩
  · obtain ⟨t, year, nano, shown⟩ : ∃ t : DateTime, t.date.year = -44 ∧
        t.time.nano = 1500000000 ∧
        (ValueType.dateTime.value t).render = "-0044-03-15T23:59:60.500" :=
      ⟨⟨⟨-44, 3, 15, by decide, by decide, by decide⟩, ⟨23, 59, 59, 1500000000, by decide⟩⟩,
        rfl, rfl, by decide +kernel⟩
    have constant := (parse_display {} Person.schema).1 .dateTime t rfl
    rw [shown] at constant
    exact ⟨t, year, nano, constant⟩
  · have resolved : Person.schema.resolve " Age " = .ok ⟨"Age", 0, .int ⟨true, .w32⟩, false⟩ :=
      Schema.resolve_eq_ok_iff.mpr (by decide +kernel)
    have shown : " Age |eq|-5" = " Age " ++ "|eq|" ++ (Value.int (-5)).render := by decide +kernel
    rw [shown]
    obtain ⟨p, parsed, holds⟩ := (parse_display {} Person.schema).2 " Age " _
      (.required "Age" (.int ⟨true, .w32⟩) Person.age)
      (⟨-5, by decide⟩ : IntType.Carrier ⟨true, .w32⟩)
      (by decide +kernel) (by decide) (by decide) resolved rfl rfl rfl nofun
    refine ⟨p, parsed, fun record => (holds record).trans ?_⟩
    show Value.int record.age.val = .int (-5) ↔ _
    rw [Value.int.injEq]

end Policy

end RecordFilter
