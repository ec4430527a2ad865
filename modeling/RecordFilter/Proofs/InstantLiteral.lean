import RecordFilter.Proofs.Display
import RecordFilter.Proofs.InstantText
import RecordFilter.Proofs.OperatorLaws

/-!
# Instants as literals

A literal with an offset stands for the universal time of its instant, and a test of a
field against it compares the moments of the two.
-/

namespace RecordFilter

open Calendar Number Results Text

/-! ## Literals -/

namespace Calendar.Instant

variable {i : Instant} {literal : String}

/-- The text of an instant: the text of its local date-time, and the offset with a
sign. -/
def text (i : Instant) : String :=
  String.ofList (i.localTime.chars ++
    (if i.offset.behind then '-' else '+') :: i.offset.clockChars)

theorem isTrimmed_text (i : Instant) : IsTrimmed i.text := by
  have sign : isSolidChar (if i.offset.behind then '-' else '+') = true := by
    split <;> decide
  refine (isSolid_ofList (by simp) ?_).isTrimmed
  simp only [Offset.clockChars, List.forall_mem_append, List.forall_mem_cons]
  exact ⟨i.localTime.solid_chars, sign, solid_padded _ _, by decide, solid_padded _ _⟩

/-- Every instant whose local year has four digits is written by its text. -/
theorem writes_text (early : 0 ≤ i.localTime.date.year) (late : i.localTime.date.year ≤ 9999) :
    i.Writes (trim i.text).toList := by
  have zone : i.offset.Writes ((if i.offset.behind then '-' else '+') :: i.offset.clockChars) := by
    cases sign : i.offset.behind with
    | false => exact .ahead sign
    | true => exact .behind (.inl rfl) sign
  have nano := writesFraction_fractionText i.localTime.time.clockNano.isLt
  refine ⟨⟨early, late⟩, 'T', by decide, _, _, nano, zone, ?_⟩
  rw [i.isTrimmed_text.2, text, String.toList_ofList, DateTime.chars, TimeOfDay.chars_eq_append]
  simp

theorem isBlank_eq_false_of_writes (written : i.Writes (trim literal).toList) :
    isBlank literal = false := by
  obtain ⟨-, separator, -, fraction, zone, -, -, same⟩ := written
  rw [isBlank_eq_false_iff]
  intro empty
  rw [empty] at same
  simp at same

/-- As a constant an instant is its universal time. -/
theorem exists_constant_of_writes (written : i.Writes (trim literal).toList) :
    ∃ u, Literal.constant .dateTime literal = .ok (.dateTime u) ∧ u.moment = i.moment := by
  obtain ⟨u, read, moment⟩ := read_of_writes written
  have some := isBlank_eq_false_of_writes written
  refine ⟨u, Literal.constant_eq_ok_iff.mpr ⟨u, ?_, rfl⟩, moment⟩
  exact (Literal.read_dateTime_eq_ok_iff some).mpr read

end Calendar.Instant

/-! ## Comparisons -/

namespace CompareOp

/-- The relation that a comparison stands for among places in an order. -/
def Orders {α : Type} [LinearOrder α] (a b : α) : CompareOp → Prop
  | .eq => a = b
  | .ne => a ≠ b
  | .gt => b < a
  | .ge => b ≤ a
  | .lt => a < b
  | .le => a ≤ b

theorem accepts_compare_iff {α : Type} [LinearOrder α] (op : CompareOp) (a b : α) :
    op.accepts (compare a b) = true ↔ op.Orders a b := by
  rcases lt_trichotomy a b with below | rfl | above
  · rw [compare_lt_iff_lt.mpr below]
    cases op <;> simp [accepts, Orders, below, below.ne, below.le, below.not_gt, below.not_ge]
  · rw [compare_eq_iff_eq.mpr rfl]
    cases op <;> simp [accepts, Orders]
  · rw [compare_gt_iff_gt.mpr above]
    cases op <;> simp [accepts, Orders, above, above.ne', above.le, above.not_gt, above.not_ge]

/-- Date-times are compared by their moments. -/
theorem holds_dateTime_iff (op : CompareOp) (t u : DateTime) :
    op.holds (.dateTime t) (.dateTime u) = true ↔ op.Orders t.moment u.moment := by
  have plain : (Value.dateTime u).kind ≠ .object := by
    intro same
    cases same
  have ordered {op : CompareOp} (other : op ≠ .ne) :
      op.holds (.dateTime t) (.dateTime u) = true ↔ op.Orders t.moment u.moment := by
    rw [holds_eq_any other plain, ← accepts_compare_iff, ← DateTime.compare_eq]
    rfl
  by_cases ne : op = .ne
  · rw [ne, holds_ne, Bool.not_eq_true', ← Bool.not_eq_true, ordered (by decide)]
    rfl
  · exact ordered ne

end CompareOp

/-! ## Tests of a field -/

namespace Schema

variable {T : Type} {schema : Schema T} {path : String} {n : Nat} {f : Field T}
  {operator : Operator}

/-- Date-times can be compared with an instant, and what counts are the moments. -/
theorem exists_tests_instant (means : schema.Means path n f) (named : isBlank path = false)
    (type : f.type = .dateTime) {literal : String} {i : Instant}
    (written : i.Writes (trim literal).toList) {op : CompareOp}
    (test : operator.test = .comparison op ∨ operator.test = .order op) :
    ∃ p, schema.Tests path operator [literal] p ∧
      ∀ record m, f.value record = .dateTime m →
        (p.holds record = true ↔ op.Orders m.moment i.moment) := by
  obtain ⟨u, constant, moment⟩ := Instant.exists_constant_of_writes written
  rw [← type] at constant
  have takes : operator.takesValues = true := by
    rw [Operator.takesValues_iff]
    rcases test with test | test <;> simp [test]
  have applies : ∀ c : Clause, c.operator = operator → c.values = [literal] →
      c.Applies f.type := by
    intro c same values
    have first : ∃ v rest, c.values = v :: rest ∧ Clause.Readable f.type v :=
      ⟨literal, [], values, _, constant⟩
    have ordered : f.type.isOrdered = true := by
      rw [type]
      rfl
    subst same
    unfold Clause.Applies
    cases operator : c.operator <;> simp_all [Operator.test]
  obtain ⟨p, made⟩ := exists_tests means named takes (List.cons_ne_nil literal []) applies
  refine ⟨p, made, fun record m value => ?_⟩
  rw [made.holds_eq means test constant, value, CompareOp.holds_dateTime_iff, moment]

/-- A range between two instants holds the date-times whose moments lie between
theirs. -/
theorem exists_tests_instants (means : schema.Means path n f) (named : isBlank path = false)
    (type : f.type = .dateTime) {low high : String} {i j : Instant}
    (writtenLow : i.Writes (trim low).toList) (writtenHigh : j.Writes (trim high).toList) :
    ∃ p, schema.Tests path .between [low, high] p ∧
      ∀ record m, f.value record = .dateTime m →
        (p.holds record = true ↔ i.moment ≤ m.moment ∧ m.moment ≤ j.moment) := by
  obtain ⟨u, constant, moment⟩ := Instant.exists_constant_of_writes writtenLow
  obtain ⟨u', constant', moment'⟩ := Instant.exists_constant_of_writes writtenHigh
  rw [← type] at constant constant'
  have applies : ∀ c : Clause, c.operator = .between → c.values = [low, high] →
      c.Applies f.type := by
    intro c same values
    have ordered : f.type.isOrdered = true := by
      rw [type]
      rfl
    unfold Clause.Applies
    rw [same]
    exact ⟨low, high, values, ordered, ⟨_, constant⟩, ⟨_, constant'⟩⟩
  obtain ⟨p, made⟩ := exists_tests means named rfl (List.cons_ne_nil low [high]) applies
  obtain ⟨a, b, readLow, readHigh, holds⟩ := made.ranges means
  obtain rfl := Except.ok.inj (constant.symm.trans readLow)
  obtain rfl := Except.ok.inj (constant'.symm.trans readHigh)
  refine ⟨p, made, fun record m value => ?_⟩
  have lower := CompareOp.holds_dateTime_iff .ge m u
  have upper := CompareOp.holds_dateTime_iff .le m u'
  rw [CompareOp.holds_iff] at lower upper
  rw [holds, value, ← moment, ← moment']
  exact and_congr lower upper

/-- **Instants.** Whatever instant has a local year of four digits can be written. A
literal that writes an instant stands for the date-time whose seconds are those of the
local one without the offset, with the same nanoseconds. So two of them stand for one
constant if they write one moment, and in a field of date-times every comparison and
every range can be asked for and is decided by the moments. -/
theorem constant_instant :
    (∀ i : Instant, 0 ≤ i.localTime.date.year → i.localTime.date.year ≤ 9999 →
      ∃ literal, i.Writes (trim literal).toList) ∧
    (∀ literal (i : Instant), i.Writes (trim literal).toList →
      ∃ u, Literal.constant .dateTime literal = .ok (.dateTime u) ∧
        u.seconds = i.localTime.seconds - 60 * i.offset.total ∧
        u.time.nano = i.localTime.time.nano) ∧
    (∀ literal literal' (i j : Instant), i.Writes (trim literal).toList →
      j.Writes (trim literal').toList →
      (Literal.constant .dateTime literal = Literal.constant .dateTime literal' ↔
        i.moment = j.moment)) ∧
    ∀ (T : Type) (schema : Schema T) path n f, schema.Means path n f → isBlank path = false →
      f.type = .dateTime →
      (∀ literal (i : Instant), i.Writes (trim literal).toList → ∀ (operator : Operator) op,
        operator.test = .comparison op ∨ operator.test = .order op →
        ∃ p, schema.Tests path operator [literal] p ∧
          ∀ record m, f.value record = .dateTime m →
            (p.holds record = true ↔ op.Orders m.moment i.moment)) ∧
      ∀ low high (i j : Instant), i.Writes (trim low).toList → j.Writes (trim high).toList →
        ∃ p, schema.Tests path .between [low, high] p ∧
          ∀ record m, f.value record = .dateTime m →
            (p.holds record = true ↔ i.moment ≤ m.moment ∧ m.moment ≤ j.moment) := by
  refine ⟨?_, ?_, ?_, ?_⟩
  · intro i early late
    exact ⟨i.text, Instant.writes_text early late⟩
  · intro literal i written
    obtain ⟨u, constant, moment⟩ := Instant.exists_constant_of_writes written
    exact ⟨u, constant, Prod.mk.inj moment⟩
  · intro literal literal' i j written written'
    obtain ⟨u, constant, moment⟩ := Instant.exists_constant_of_writes written
    obtain ⟨u', constant', moment'⟩ := Instant.exists_constant_of_writes written'
    rw [constant, constant', ← moment, ← moment', DateTime.moment_inj]
    simp
  · intro T schema path n f means named type
    refine ⟨?_, ?_⟩
    · intro literal i written operator op test
      exact exists_tests_instant means named type written test
    · intro low high i j writtenLow writtenHigh
      exact exists_tests_instants means named type writtenLow writtenHigh

/-- Events that are no more than their time. -/
def eventSchema : Schema DateTime :=
  (Schema.empty "Event").field "At" .dateTime id

/-- A quarter of an hour into the first of March, one hour ahead. -/
def earlyMarch : Instant :=
  ⟨⟨⟨2024, 3, 1, by decide, by decide, by decide⟩, .ofParts 0 15 30 500000000⟩, ⟨false, 1, 0⟩⟩

/-- The same in universal time, at the end of a leap day. -/
def lateFebruary : Instant :=
  ⟨⟨⟨2024, 2, 29, by decide, by decide, by decide⟩, .ofParts 23 15 30 500000000⟩, .universal⟩

/-- A leap second at the end of the year 9999, half an hour behind. -/
def lastLeapSecond : Instant :=
  ⟨⟨⟨9999, 12, 31, by decide, by decide, by decide⟩, .ofParts 23 59 60 250000000⟩, ⟨true, 0, 30⟩⟩

/-- One moment in two years, a leap second carried out of the years that can be
written, and the events right after it and right before it. -/
theorem constant_instant_event :
    Literal.constant .dateTime "2024-03-01T00:15:30.5+01:00" =
      Literal.constant .dateTime " 2024-02-29 23:15:30.500000000999z" ∧
    Literal.constant .dateTime "9999-12-31t23:59:60.25-00:30" = .ok (.dateTime
      ⟨⟨10000, 1, 1, by decide, by decide, by decide⟩, .ofParts 0 29 60 250000000⟩) ∧
    ∃ p, eventSchema.Tests "at" .greater ["9999-12-31t23:59:60.25-00:30"] p ∧
      p.holds ⟨⟨10000, 1, 1, by decide, by decide, by decide⟩, .ofParts 0 30 0 0⟩ = true ∧
      p.holds ⟨⟨10000, 1, 1, by decide, by decide, by decide⟩, .ofParts 0 29 59 999999999⟩ =
        false := by
  have march : earlyMarch.Writes (trim "2024-03-01T00:15:30.5+01:00").toList := by
    refine ⟨by decide, 'T', by decide, ['.', '5'], _, ?_, .ahead rfl, by decide +kernel⟩
    exact WritesFraction.point (List.cons_ne_nil '5' []) (List.all_eq_true.mp rfl)
  have february : lateFebruary.Writes (trim " 2024-02-29 23:15:30.500000000999z").toList := by
    refine ⟨by decide, ' ', by decide, '.' :: '5' :: "00000000999".toList, _, ?_,
      .letter (.inr rfl), by decide +kernel⟩
    exact WritesFraction.point (List.cons_ne_nil '5' _) (List.all_eq_true.mp rfl)
  have last : lastLeapSecond.Writes (trim "9999-12-31t23:59:60.25-00:30").toList := by
    refine ⟨by decide, 't', by decide, ['.', '2', '5'], _, ?_, .behind (.inl rfl) rfl,
      by decide +kernel⟩
    exact WritesFraction.point (List.cons_ne_nil '2' ['5']) (List.all_eq_true.mp rfl)
  obtain ⟨-, denotes, same, tests⟩ := constant_instant
  refine ⟨(same _ _ _ _ march february).mpr (by decide +kernel), ?_, ?_⟩
  · obtain ⟨u, constant, seconds, nano⟩ := denotes _ _ last
    have moment : u.moment = DateTime.moment
        ⟨⟨10000, 1, 1, by decide, by decide, by decide⟩, .ofParts 0 29 60 250000000⟩ := by
      rw [DateTime.moment, seconds, nano]
      decide +kernel
    rw [constant, DateTime.moment_inj.mp moment]
  · have resolved : eventSchema.resolve "at" = .ok ⟨"At", 0, .dateTime, false⟩ :=
      resolve_eq_ok_iff.mpr (by decide +kernel)
    obtain ⟨n, f, means, known⟩ := resolve_eq_ok_iff_means.mp resolved
    have position : 0 = n := congrArg FieldRef.index known
    subst position
    have field : eventSchema.fieldAt? 0 = some (.required "At" .dateTime id) := rfl
    obtain rfl := Option.some.inj (field.symm.trans means.1.1)
    obtain ⟨p, made, holds⟩ := (tests _ eventSchema "at" 0 _ means (by decide +kernel) rfl).1
      _ _ last .greater .gt (.inr rfl)
    refine ⟨p, made, ?_, ?_⟩
    · refine (holds _ _ rfl).mpr ?_
      exact Prod.Lex.toLex_lt_toLex.mpr (.inl (by decide +kernel))
    · refine Bool.eq_false_iff.mpr (mt (holds _ _ rfl).mp ?_)
      exact mt Prod.Lex.toLex_lt_toLex.mp (by decide +kernel)

end Schema

end RecordFilter
