import RecordFilter.Proofs.LowerCase

/-!
# Lower case and ASCII

Of the letters outside ASCII two only have a small form with an ASCII letter in it:
the Kelvin sign, which becomes a k, and the dotted capital I, which keeps its dot as a
mark of its own. So a text of small ASCII letters without a k is the lower case of
the texts that differ from it in the case of ASCII letters, and of no others.
-/

namespace RecordFilter.Text

/-! ## The table -/

/-- The run is that of the ASCII letters or the Kelvin sign, or its small letters are
outside ASCII. -/
def CaseRun.staysOutside (run : CaseRun) : Bool :=
  (Nat.beq run.first 0x41 && Nat.beq run.last 0x5A) ||
    (Nat.beq run.first 0x212A && Nat.beq run.last 0x212A) || Nat.ble 0x80 run.small

theorem capitalRuns_stayOutside : capitalRuns.all CaseRun.staysOutside = true := by
  decide +kernel

/-- The small letters are characters. -/
theorem capitalRuns_valid : (capitalRuns.all fun run =>
    Nat.blt run.top 0xD800 || (Nat.blt 0xDFFF run.small && Nat.blt run.top 0x110000)) = true := by
  decide +kernel

theorem toNat_of_lowerCode? {n m : Nat} (found : lowerCode? capitalRuns n = some m) :
    (Char.ofNat m).toNat = m := by
  obtain ⟨run, member, small⟩ := hasSmall_of_lowerCode? found
  have bounds := small.bounds
  have valid := List.all_eq_true.mp capitalRuns_valid run member
  simp only [Bool.or_eq_true, Bool.and_eq_true, Nat.blt_eq] at valid
  have char : m.isValidChar := by
    show m < 0xD800 ∨ 0xDFFF < m ∧ m < 0x110000
    omega
  rw [Char.ofNat, dif_pos char]
  rfl

/-! ## Characters -/

variable {c d : Char}

/-- What is true of the first 128 code points is true of the ASCII characters. -/
theorem forall_ascii {P : Char → Prop} (each : ∀ n < 0x80, P (Char.ofNat n))
    (ascii : c.toNat < 0x80) : P c := by
  have here := each c.toNat ascii
  rwa [Char.ofNat_toNat] at here

/-- In ASCII, a character is lowered by itself and to one character. -/
theorem lowerChar_of_ascii (ascii : c.toNat < 0x80) : c ≠ 'Σ' ∧ lowerChar c = [c.toLower] :=
  forall_ascii (P := fun c => c ≠ 'Σ' ∧ lowerChar c = [c.toLower]) (by decide +kernel) ascii

theorem toNat_toLower_lt_iff : c.toLower.toNat < 0x80 ↔ c.toNat < 0x80 := by
  by_cases ascii : c.toNat < 0x80
  · have lowered : c.toLower.toNat < 0x80 :=
      forall_ascii (P := fun c => c.toLower.toNat < 0x80) (by decide +kernel) ascii
    exact iff_of_true lowered ascii
  · have same : c.toLower = c := by
      unfold Char.toLower
      split
      · rename_i capital
        have upper : c.toNat ≤ 0x5A := UInt32.le_iff_toNat_le.mp capital.2
        omega
      · rfl
    rw [same]

/-- No letter but the Kelvin sign comes into ASCII. -/
theorem ascii_of_lowerLetter (ascii : (lowerLetter c).toNat < 0x80) :
    c.toNat < 0x80 ∨ c = '\u212a' := by
  unfold lowerLetter at ascii
  split at ascii
  · rename_i n found
    rw [toNat_of_lowerCode? found] at ascii
    obtain ⟨run, member, lowered⟩ := exists_run_of_lowerCode? found
    obtain ⟨⟨above, below, -⟩, rfl⟩ := CaseRun.lower?_eq_some_iff.mp lowered
    have outside := List.all_eq_true.mp capitalRuns_stayOutside run member
    simp only [CaseRun.staysOutside, Bool.or_eq_true, Bool.and_eq_true, Nat.beq_eq,
      Nat.ble_eq] at outside
    rcases outside with (⟨first, last⟩ | ⟨first, last⟩) | small
    · exact .inl (by omega)
    · refine .inr (Char.toNat_inj.mp ?_)
      show c.toNat = 0x212A
      omega
    · omega
  · exact .inl ascii

/-- Where an ASCII character in lower case comes from. -/
theorem cases_of_mem_lowerChar (member : d ∈ lowerChar c) (ascii : d.toNat < 0x80) :
    (c.toNat < 0x80 ∧ d = c.toLower) ∨ (c = '\u212a' ∧ d = 'k') ∨ (c = '\u0130' ∧ d = 'i') := by
  by_cases dotted : c = '\u0130'
  · subst dotted
    have parts : d = 'i' ∨ d = '\u0307' := by simpa [lowerChar] using member
    rcases parts with rfl | rfl
    · exact .inr (.inr ⟨rfl, rfl⟩)
    · exact absurd ascii (by decide)
  · have letter : d = lowerLetter c := by simpa [lowerChar, dotted] using member
    rcases ascii_of_lowerLetter (letter ▸ ascii) with plain | rfl
    · have lowered := (lowerChar_of_ascii plain).2
      rw [lowered] at member
      exact .inl ⟨plain, List.mem_singleton.mp member⟩
    · refine .inr (.inl ⟨rfl, letter.trans ?_⟩)
      decide +kernel

/-! ## Lists of characters -/

variable {before : Bool} {cs word : List Char}

/-- A character in lower case belongs to a character of the list, or is a sigma. -/
theorem cases_of_mem_lowerAfter (member : d ∈ lowerAfter before cs) :
    (∃ c ∈ cs, d ∈ lowerChar c) ∨ d = 'ς' ∨ d = 'σ' := by
  induction cs generalizing before with
  | nil => cases member
  | cons c rest ih =>
      rw [lowerAfter, List.mem_append] at member
      rcases member with first | later
      · split at first
        · -- which of the two it is depends on what stands around
          split at first
          · exact .inr (.inl (List.mem_singleton.mp first))
          · exact .inr (.inr (List.mem_singleton.mp first))
        · exact .inl ⟨c, List.mem_cons_self, first⟩
      · rcases ih later with ⟨c', among, lowered⟩ | sigma
        · exact .inl ⟨c', List.mem_cons_of_mem _ among, lowered⟩
        · exact .inr sigma

/-- Every character of a list leaves its small form in the lower case of the list. -/
theorem mem_lowerAfter (before : Bool) (member : c ∈ cs) :
    (c = 'Σ' ∧ ('ς' ∈ lowerAfter before cs ∨ 'σ' ∈ lowerAfter before cs)) ∨
      ∀ d ∈ lowerChar c, d ∈ lowerAfter before cs := by
  induction cs generalizing before with
  | nil => cases member
  | cons first rest ih =>
      rw [lowerAfter]
      simp only [List.mem_append]
      rcases List.mem_cons.mp member with rfl | later
      · by_cases sigma : c = 'Σ'
        · refine .inl ⟨sigma, ?_⟩
          rw [if_pos sigma]
          split <;> simp
        · refine .inr fun d lowered => .inl ?_
          rwa [if_neg sigma]
      · rcases ih (casedBehind before first) later with ⟨sigma, either⟩ | each
        · exact .inl ⟨sigma, either.imp .inr .inr⟩
        · exact .inr fun d lowered => .inr (each d lowered)

theorem lowerAfter_of_ascii (ascii : ∀ c ∈ cs, c.toNat < 0x80) :
    lowerAfter before cs = cs.map Char.toLower := by
  induction cs generalizing before with
  | nil => rfl
  | cons c rest ih =>
      obtain ⟨other, lowered⟩ := lowerChar_of_ascii (ascii c List.mem_cons_self)
      rw [lowerAfter, if_neg other, lowered, ih fun d later => ascii d (.tail _ later)]
      rfl

/-- Only ASCII characters become a word in ASCII without a k. -/
theorem ascii_of_lowerAfter (same : lowerAfter before cs = word)
    (plain : ∀ d ∈ word, d.toNat < 0x80 ∧ d ≠ 'k') : ∀ c ∈ cs, c.toNat < 0x80 := by
  subst same
  intro c member
  rcases mem_lowerAfter before member with ⟨-, final | inner⟩ | each
  · exact absurd (plain _ final).1 (by decide)
  · exact absurd (plain _ inner).1 (by decide)
  · by_cases dotted : c = '\u0130'
    · -- the dot would be left over
      have mark : '\u0307' ∈ lowerChar c := by simp [dotted, lowerChar]
      exact absurd (plain _ (each _ mark)).1 (by decide)
    · have letter : lowerLetter c ∈ lowerChar c := by simp [dotted, lowerChar]
      obtain ⟨ascii, noK⟩ := plain _ (each _ letter)
      rcases cases_of_mem_lowerChar letter ascii with ⟨inside, -⟩ | ⟨-, k⟩ | ⟨dot, -⟩
      · exact inside
      · exact absurd k noK
      · exact absurd dot dotted

/-- The lists that become a word in ASCII without a k are those that differ from it
in the case of ASCII letters. -/
theorem lowerAfter_eq_iff (before : Bool) (plain : ∀ d ∈ word, d.toNat < 0x80 ∧ d ≠ 'k') :
    lowerAfter before cs = word ↔ cs.map Char.toLower = word := by
  constructor
  · intro same
    rw [← same, lowerAfter_of_ascii (ascii_of_lowerAfter same plain)]
  · intro same
    refine (lowerAfter_of_ascii ?_).trans same
    intro c member
    have among : c.toLower ∈ word := same ▸ List.mem_map_of_mem member
    exact toNat_toLower_lt_iff.mp (plain _ among).1

/-! ## Texts -/

/-- The texts differ in nothing but the case of ASCII letters. -/
def SameUpToCase (s t : String) : Prop :=
  s.toList.map Char.toLower = t.toList.map Char.toLower

instance (s t : String) : Decidable (SameUpToCase s t) :=
  inferInstanceAs (Decidable (_ = _))

/-- A word of small ASCII letters other than the k. -/
def IsKeyword (word : String) : Prop :=
  ∀ c ∈ word.toList, c.toNat < 0x80 ∧ c ≠ 'k' ∧ c.toLower = c

instance (word : String) : Decidable (IsKeyword word) :=
  List.decidableBAll (fun c : Char => c.toNat < 0x80 ∧ c ≠ 'k' ∧ c.toLower = c) word.toList

variable {s keyword : String}

/-- The lower-case mapping knows more letters than ASCII has, but makes a keyword of
none of them. -/
theorem IsKeyword.lower_eq_iff (plain : IsKeyword keyword) :
    lower s = keyword ↔ SameUpToCase s keyword := by
  have small : keyword.toList.map Char.toLower = keyword.toList := by
    conv_rhs => rw [← List.map_id keyword.toList]
    exact List.map_congr_left fun c member => (plain c member).2.2
  have lowered : lowerChars s.toList = keyword.toList ↔ s.toList.map Char.toLower = keyword.toList :=
    lowerAfter_eq_iff false fun c member => ⟨(plain c member).1, (plain c member).2.1⟩
  rw [SameUpToCase, small, ← lowered, ← String.toList_inj, lower, String.toList_ofList]

/-- What is a keyword up to case is in ASCII. -/
theorem IsKeyword.ascii (plain : IsKeyword keyword) (same : SameUpToCase s keyword) :
    ∀ c ∈ s.toList, c.toNat < 0x80 := by
  intro c member
  have among : c.toLower ∈ keyword.toList.map Char.toLower := same ▸ List.mem_map_of_mem member
  obtain ⟨d, within, lowered⟩ := List.mem_map.mp among
  rw [← toNat_toLower_lt_iff, ← lowered, toNat_toLower_lt_iff]
  exact (plain d within).1

/-- A mark that is no letter is in the lower case of a text only if it is in the text. -/
theorem mem_of_mem_lower {mark : Char} (ascii : mark.toNat < 0x80) (noLetter : ¬ mark.isAlpha)
    (member : mark ∈ (lower s).toList) : mark ∈ s.toList := by
  rw [lower, String.toList_ofList] at member
  rcases cases_of_mem_lowerAfter member with ⟨c, among, lowered⟩ | rfl | rfl
  · rcases cases_of_mem_lowerChar lowered ascii with ⟨plain, rfl⟩ | ⟨-, rfl⟩ | ⟨-, rfl⟩
    · have same : ¬ c.toLower.isAlpha → c.toLower = c :=
        forall_ascii (P := fun c => ¬ c.toLower.isAlpha → c.toLower = c) (by decide +kernel) plain
      rwa [same noLetter]
    · exact absurd rfl noLetter
    · exact absurd rfl noLetter
  · exact absurd ascii (by decide)
  · exact absurd ascii (by decide)

end RecordFilter.Text
