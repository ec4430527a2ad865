import Mathlib.Data.List.Basic
import RecordFilter.Text.LowerCase

/-!
# Lower case of lower case

The small letters of the table are no capitals of it, and neither are the two
small sigmas and the parts of the dotted capital I. So a text in lower case is
its own lower case, wherever its sigmas stand.
-/

namespace RecordFilter.Text

/-! ## The table -/

namespace CaseRun

/-- The code point of the small letter at the end of the run. -/
def top (run : CaseRun) : Nat :=
  run.small + (run.last - run.first)

/-- The small letters of a run, which are every second code point or a single
one, lie between the capitals of the other run. -/
def alternates (run other : CaseRun) : Bool :=
  Nat.beq other.step 2 && (Nat.beq run.step 2 || Nat.beq run.first run.last) &&
    Nat.beq ((run.small + other.first) % 2) 1

/-- No small letter of the run is a capital of the ascending runs. The search
stops at the first one that begins above the run's small letters. -/
def isApartFrom (run : CaseRun) : List CaseRun → Bool
  | [] => true
  | other :: rest =>
    Nat.blt run.top other.first ||
      ((Nat.blt other.last run.small || run.alternates other) && run.isApartFrom rest)

/-- Code points at which the run has small letters. -/
def HasSmall (run : CaseRun) (m : Nat) : Prop :=
  ∃ n, run.lower? n = some m

variable {run other : CaseRun} {m n : Nat}

theorem lower?_eq_some_iff : run.lower? n = some m ↔
    (run.first ≤ n ∧ n ≤ run.last ∧ (n - run.first) % run.step = 0) ∧
      run.small + (n - run.first) = m := by
  unfold lower?
  split <;> simp_all

theorem HasSmall.bounds (h : run.HasSmall m) : run.small ≤ m ∧ m ≤ run.top := by
  obtain ⟨n, found⟩ := h
  obtain ⟨⟨-, above, -⟩, rfl⟩ := lower?_eq_some_iff.mp found
  unfold top
  omega

theorem lower?_of_alternates (h : run.HasSmall m) (between : run.alternates other = true) :
    other.lower? m = none := by
  obtain ⟨n, found⟩ := h
  obtain ⟨⟨above, below, onRun⟩, rfl⟩ := lower?_eq_some_iff.mp found
  simp only [alternates, Bool.and_eq_true, Bool.or_eq_true, Nat.beq_eq] at between
  obtain ⟨⟨two, second⟩, odd⟩ := between
  have even : (n - run.first) % 2 = 0 := by
    rcases second with step | single
    · rwa [step] at onRun
    · omega
  unfold lower?
  rw [two, if_neg (by omega)]

/-- The search for a capital goes along with the check of the runs. -/
theorem lowerCode?_of_isApartFrom {runs : List CaseRun} (h : run.HasSmall m)
    (apart : run.isApartFrom runs = true) : lowerCode? runs m = none := by
  induction runs with
  | nil => rfl
  | cons other rest ih =>
      have bounds := h.bounds
      simp only [isApartFrom, Bool.or_eq_true, Bool.and_eq_true, Nat.blt_eq] at apart
      rw [lowerCode?]
      by_cases before : m < other.first
      · rw [if_pos before]
      · rw [if_neg before]
        obtain ⟨missed, further⟩ := apart.resolve_left (by omega)
        have none : other.lower? m = none := by
          rcases missed with behind | between
          · unfold lower?
            rw [if_neg (by omega)]
          · exact lower?_of_alternates h between
        rw [none]
        exact ih further

end CaseRun

theorem exists_run_of_lowerCode? {runs : List CaseRun} {n m : Nat}
    (h : lowerCode? runs n = some m) : ∃ run ∈ runs, run.lower? n = some m := by
  induction runs with
  | nil => cases h
  | cons run rest ih =>
      rw [lowerCode?] at h
      split at h
      · cases h
      · split at h
        · rename_i found
          obtain rfl := Option.some.inj h
          exact ⟨run, List.mem_cons_self, found⟩
        · obtain ⟨other, member, found⟩ := ih h
          exact ⟨other, List.mem_cons_of_mem _ member, found⟩

theorem hasSmall_of_lowerCode? {runs : List CaseRun} {n m : Nat}
    (h : lowerCode? runs n = some m) : ∃ run ∈ runs, run.HasSmall m := by
  obtain ⟨run, member, found⟩ := exists_run_of_lowerCode? h
  exact ⟨run, member, n, found⟩

theorem capitalRuns_isApartFrom :
    capitalRuns.all (·.isApartFrom capitalRuns) = true := by
  decide +kernel

/-- The dotted capital I, which stands in no run, is no small letter either. -/
theorem capitalRuns_avoid_dottedI :
    (capitalRuns.all fun run => Nat.blt run.top 0x130 || Nat.blt 0x130 run.small) = true := by
  decide +kernel

/-! ## Characters -/

/-- The character is its own lower case wherever it stands. -/
def IsSmall (c : Char) : Prop :=
  c ≠ 'Σ' ∧ lowerChar c = [c]

instance (c : Char) : Decidable (IsSmall c) :=
  inferInstanceAs (Decidable (_ ∧ _))

theorem isSmall_of_lowerCode?_eq_none {c : Char} (none : lowerCode? capitalRuns c.toNat = none)
    (dotted : c ≠ '\u0130') : IsSmall c := by
  refine ⟨?_, ?_⟩
  · rintro rfl
    have capital : (lowerCode? capitalRuns 'Σ'.toNat).isSome = true := by decide +kernel
    rw [none] at capital
    cases capital
  · rw [lowerChar, if_neg dotted, lowerLetter, none]

/-- What the table gives for a capital is no capital. -/
theorem isSmall_of_lowerCode? {n m : Nat} (found : lowerCode? capitalRuns n = some m) :
    IsSmall (Char.ofNat m) := by
  obtain ⟨run, member, small⟩ := hasSmall_of_lowerCode? found
  by_cases valid : m.isValidChar
  · have code : (Char.ofNat m).toNat = m := by rw [Char.ofNat, dif_pos valid]; rfl
    refine isSmall_of_lowerCode?_eq_none ?_ ?_
    · rw [code]
      exact CaseRun.lowerCode?_of_isApartFrom small
        (List.all_eq_true.mp capitalRuns_isApartFrom run member)
    · intro dotted
      have bounds := small.bounds
      have avoided := List.all_eq_true.mp capitalRuns_avoid_dottedI run member
      simp only [Bool.or_eq_true, Nat.blt_eq] at avoided
      have dottedCode : m = 0x130 := by rw [← code, dotted]; rfl
      omega
  · have null : Char.ofNat m = '\x00' := by rw [Char.ofNat, dif_neg valid]; rfl
    rw [null]
    decide +kernel

theorem isSmall_of_mem_lowerChar {c d : Char} (h : d ∈ lowerChar c) : IsSmall d := by
  unfold lowerChar at h
  split at h
  · rcases List.mem_cons.mp h with rfl | h
    · decide +kernel
    · rw [List.mem_singleton.mp h]
      decide +kernel
  · rename_i dotted
    rw [List.mem_singleton.mp h, lowerLetter]
    split
    · rename_i found
      exact isSmall_of_lowerCode? found
    · rename_i none
      exact isSmall_of_lowerCode?_eq_none none dotted

/-! ## Texts -/

theorem isSmall_of_mem_lowerAfter {before : Bool} {cs : List Char} :
    ∀ d ∈ lowerAfter before cs, IsSmall d := by
  induction cs generalizing before with
  | nil => intro d h; cases h
  | cons c rest ih =>
      intro d h
      rw [lowerAfter, List.mem_append] at h
      rcases h with h | h
      · split at h
        · split at h <;> rw [List.mem_singleton.mp h] <;> decide +kernel
        · exact isSmall_of_mem_lowerChar h
      · exact ih d h

theorem lowerAfter_of_isSmall {before : Bool} {cs : List Char} (h : ∀ c ∈ cs, IsSmall c) :
    lowerAfter before cs = cs := by
  induction cs generalizing before with
  | nil => rfl
  | cons c rest ih =>
      obtain ⟨other, small⟩ := h c List.mem_cons_self
      rw [lowerAfter, if_neg other, small, ih fun d hd => h d (List.mem_cons_of_mem _ hd)]
      rfl

/-- A text in lower case stays as it is. -/
theorem lower_lower (s : String) : lower (lower s) = lower s := by
  unfold lower lowerChars
  rw [String.toList_ofList, lowerAfter_of_isSmall isSmall_of_mem_lowerAfter]

/-- Nothing disappears in lower case. -/
theorem lower_eq_empty_iff {s : String} : lower s = "" ↔ s = "" := by
  constructor
  · intro empty
    have nothing : lowerChars s.toList = [] := String.ofList_eq_empty_iff.mp empty
    cases chars : s.toList with
    | nil => exact String.toList_eq_nil_iff.mp chars
    | cons c rest =>
        rw [chars, lowerChars, lowerAfter, List.append_eq_nil_iff] at nothing
        have first := nothing.1
        unfold lowerChar at first
        split at first
        · cases first
        · split at first <;> cases first
  · rintro rfl
    rfl

end RecordFilter.Text
