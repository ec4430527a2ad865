import RecordFilter.Policy
import RecordFilter.Proofs.Results

/-!
# Reading of filters

What a policy makes of a filter before there is a schema: the clauses of its
segments, if there is room for them and each is a clause on an allowed path.
-/

namespace RecordFilter

open Results

namespace Policy

variable {policy : Policy} {segment filter : String} {c : Clause} {e : FilterError}

/-! ## One segment -/

/-- The segment is a clause, and its path is allowed. -/
def Reads (policy : Policy) (segment : String) (c : Clause) : Prop :=
  Clause.parse segment = .ok c ∧ policy.allows c.property = true

/-- The segment is no clause, or it is a clause and its path is not allowed. -/
inductive Refuses (policy : Policy) (segment : String) : FilterError → Prop
  | unreadable {e : FilterError} : Clause.parse segment = .error e → Refuses policy segment e
  | forbidden {c : Clause} : Clause.parse segment = .ok c → policy.allows c.property = false →
      Refuses policy segment (.propertyNotAllowed c.property)

/-- A segment is parsed, and the path of its clause is checked afterwards. -/
private theorem readClause_eq (policy : Policy) (segment : String) :
    policy.readClause segment = (Clause.parse segment).bind fun c =>
      if policy.allows c.property then .ok c else .error (.propertyNotAllowed c.property) :=
  rfl

theorem readClause_eq_ok_iff : policy.readClause segment = .ok c ↔ policy.Reads segment c := by
  rw [readClause_eq, bind_eq_ok_iff]
  constructor
  · rintro ⟨c', parsed, checked⟩
    by_cases allowed : policy.allows c'.property = true
    · rw [if_pos allowed] at checked
      obtain rfl := Except.ok.inj checked
      exact ⟨parsed, allowed⟩
    · rw [if_neg allowed] at checked
      cases checked
  · rintro ⟨parsed, allowed⟩
    exact ⟨c, parsed, if_pos allowed⟩

theorem readClause_eq_error_iff :
    policy.readClause segment = .error e ↔ policy.Refuses segment e := by
  rw [readClause_eq, bind_eq_error_iff]
  constructor
  · rintro (unreadable | ⟨c, parsed, checked⟩)
    · exact .unreadable unreadable
    · by_cases allowed : policy.allows c.property = true
      · rw [if_pos allowed] at checked
        cases checked
      · rw [if_neg allowed] at checked
        obtain rfl := Except.error.inj checked
        exact .forbidden parsed (Bool.eq_false_iff.mpr allowed)
  · intro refused
    cases refused with
    | unreadable h => exact .inl h
    | @forbidden c parsed forbidden =>
        exact .inr ⟨c, parsed, if_neg (Bool.eq_false_iff.mp forbidden)⟩

/-! ## All segments -/

/-- So many clauses are within the limit, if there is one. -/
def HasRoom (policy : Policy) (count : Nat) : Prop :=
  ∀ limit, policy.maxClauses = some limit → count ≤ limit

theorem admits_eq_ok_iff {count : Nat} : policy.admits count = .ok () ↔ policy.HasRoom count := by
  unfold admits HasRoom
  cases policy.maxClauses with
  | none => simp
  | some limit => simp

/-- Beyond the limit, the segments are not looked at. -/
theorem clauses_of_excess {limit : Nat} (limited : policy.maxClauses = some limit)
    (excess : limit < (Clause.segments filter).length) :
    policy.clauses filter = .error (.tooManyClauses (Clause.segments filter).length limit) := by
  unfold clauses admits
  rw [limited]
  simp only [if_pos excess]
  rfl

/-- Within the limit, the segments are read from left to right. -/
theorem clauses_of_room (room : policy.HasRoom (Clause.segments filter).length) :
    policy.clauses filter = (Clause.segments filter).mapM policy.readClause := by
  show ((policy.admits (Clause.segments filter).length).bind fun _ =>
    (Clause.segments filter).mapM policy.readClause) = _
  rw [admits_eq_ok_iff.mpr room]
  rfl

theorem room_or_excess (policy : Policy) (count : Nat) :
    policy.HasRoom count ∨ ∃ limit, policy.maxClauses = some limit ∧ limit < count := by
  by_cases room : policy.HasRoom count
  · exact .inl room
  · simp only [HasRoom, not_forall, Nat.not_le] at room
    obtain ⟨limit, limited, excess⟩ := room
    exact .inr ⟨limit, limited, excess⟩

/-- The clauses of a filter are those of its segments, in order. -/
theorem clauses_eq_ok_iff {cs : List Clause} :
    policy.clauses filter = .ok cs ↔ policy.HasRoom (Clause.segments filter).length ∧
      List.Forall₂ policy.Reads (Clause.segments filter) cs := by
  rcases policy.room_or_excess (Clause.segments filter).length with room | ⟨limit, limited, excess⟩
  · rw [clauses_of_room room, mapM_eq_ok_iff]
    simp only [readClause_eq_ok_iff, room, true_and]
  · rw [clauses_of_excess limited excess]
    constructor
    · intro h
      cases h
    · rintro ⟨room, -⟩
      exact absurd (room limit limited) (Nat.not_le_of_lt excess)

/-- The refusal of the leftmost segment that is refused decides. -/
theorem clauses_eq_error_iff (room : policy.HasRoom (Clause.segments filter).length) :
    policy.clauses filter = .error e ↔ Leftmost policy.Refuses (Clause.segments filter) e := by
  rw [clauses_of_room room, mapM_eq_error_iff]
  simp only [readClause_eq_error_iff]

/-- A segment that is not refused is read. -/
theorem reads_of_not_refused (h : ∀ e, ¬ policy.Refuses segment e) :
    ∃ c, policy.Reads segment c := by
  simp only [← readClause_eq_error_iff] at h
  simpa only [readClause_eq_ok_iff] using forall_ne_error_iff.mp h

end Policy

end RecordFilter
