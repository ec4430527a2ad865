import RecordFilter.Proofs.FinalSigma
import RecordFilter.Proofs.LowerCase
import RecordFilter.Proofs.Trimming

/-!
# Lower case and blanks

Blanks have no case, end words, and are the small form of no letter. So lower case
neither makes blanks nor removes any: a text may be trimmed before it is lowered or
after, and it is as long as its trimmed form in lower case only if it is trimmed.
-/

namespace RecordFilter.Text

/-! ## The table -/

/-- The code points of the blanks. -/
def blankCodes : List Nat :=
  [0x09, 0x0A, 0x0B, 0x0C, 0x0D, 0x20, 0x85, 0xA0, 0x1680, 0x2000, 0x2001, 0x2002, 0x2003, 0x2004,
   0x2005, 0x2006, 0x2007, 0x2008, 0x2009, 0x200A, 0x2028, 0x2029, 0x202F, 0x205F, 0x3000]

variable {before : Bool} {c d : Char} {cs : List Char}

theorem isBlankChar_iff_mem : isBlankChar c = true ↔ c.toNat ∈ blankCodes := by
  simp [isBlankChar, blankCodes]
  omega

/-- Blanks are no capitals, have no case and are not passed over. -/
theorem blankCodes_plain : ∀ n ∈ blankCodes, lowerCode? capitalRuns n = none ∧
    inRanges casedRanges n = false ∧ inRanges caseIgnorableRanges n = false := by
  decide +kernel

theorem capitalRuns_avoid_blanks : (capitalRuns.all fun run =>
    blankCodes.all fun n => Nat.blt n run.small || Nat.blt run.top n) = true := by
  decide +kernel

/-! ## Characters -/

theorem isSmall_of_isBlankChar (blank : isBlankChar c = true) : IsSmall c := by
  refine isSmall_of_lowerCode?_eq_none (blankCodes_plain _ (isBlankChar_iff_mem.mp blank)).1 ?_
  rintro rfl
  cases blank

/-- A blank ends a word. -/
theorem casedBehind_of_isBlankChar (blank : isBlankChar c = true) :
    casedBehind before c = false := by
  obtain ⟨-, noCase, counts⟩ := blankCodes_plain _ (isBlankChar_iff_mem.mp blank)
  simp [casedBehind, isCaseIgnorable, isCased, noCase, counts]

theorem casedAhead_of_isBlankChar (blank : isBlankChar c = true) :
    casedAhead (c :: cs) = false := by
  obtain ⟨-, noCase, counts⟩ := blankCodes_plain _ (isBlankChar_iff_mem.mp blank)
  simp [casedAhead, isCaseIgnorable, isCased, noCase, counts]

/-- What the table gives for a capital is no blank. -/
theorem isBlankChar_of_lowerCode? {n m : Nat} (found : lowerCode? capitalRuns n = some m) :
    isBlankChar (Char.ofNat m) = false := by
  obtain ⟨run, member, small⟩ := hasSmall_of_lowerCode? found
  have bounds := small.bounds
  have avoided := List.all_eq_true.mp capitalRuns_avoid_blanks run member
  by_contra blank
  rw [Bool.not_eq_false, isBlankChar_iff_mem] at blank
  by_cases valid : m.isValidChar
  · have code : (Char.ofNat m).toNat = m := by rw [Char.ofNat, dif_pos valid]; rfl
    rw [code] at blank
    have apart := List.all_eq_true.mp avoided m blank
    simp only [Bool.or_eq_true, Nat.blt_eq] at apart
    omega
  · have null : Char.ofNat m = '\x00' := by rw [Char.ofNat, dif_neg valid]; rfl
    rw [null] at blank
    exact absurd blank (by decide)

theorem isBlankChar_of_mem_lowerChar (other : isBlankChar c = false) (member : d ∈ lowerChar c) :
    isBlankChar d = false := by
  unfold lowerChar at member
  split at member
  · simp only [List.mem_cons, List.not_mem_nil, or_false] at member
    rcases member with rfl | rfl <;> rfl
  · rw [List.mem_singleton.mp member, lowerLetter]
    split
    · rename_i found
      exact isBlankChar_of_lowerCode? found
    · exact other

theorem lowerChar_ne_nil (c : Char) : lowerChar c ≠ [] := by
  unfold lowerChar
  split <;> simp

/-! ## Texts -/

theorem lowerAfter_cons_of_isBlankChar (blank : isBlankChar c = true) :
    lowerAfter before (c :: cs) = c :: lowerAfter false cs := by
  obtain ⟨other, small⟩ := isSmall_of_isBlankChar blank
  rw [lowerAfter, if_neg other, small, casedBehind_of_isBlankChar blank, List.singleton_append]

/-- The characters that stand for one in lower case: not none, and no blanks
unless it is one. -/
theorem exists_lowerAfter_cons (before : Bool) (other : isBlankChar c = false) (cs : List Char) :
    ∃ small, small ≠ [] ∧ (∀ d ∈ small, isBlankChar d = false) ∧
      lowerAfter before (c :: cs) = small ++ lowerAfter (casedBehind before c) cs := by
  refine ⟨_, ?_, ?_, rfl⟩
  · split
    · simp
    · exact lowerChar_ne_nil c
  · intro d member
    split at member
    · split at member <;> rw [List.mem_singleton.mp member] <;> rfl
    · exact isBlankChar_of_mem_lowerChar other member

/-- By induction on the text: the same blanks are in front. -/
theorem dropWhile_lowerChars (cs : List Char) :
    (lowerChars cs).dropWhile isBlankChar = lowerChars (cs.dropWhile isBlankChar) := by
  unfold lowerChars
  induction cs with
  | nil => rfl
  | cons c cs ih =>
      cases first : isBlankChar c with
      | true =>
          rw [lowerAfter_cons_of_isBlankChar first, List.dropWhile_cons_of_pos first, ih,
            List.dropWhile_cons_of_pos first]
      | false =>
          obtain ⟨small, some, none, lowered⟩ := exists_lowerAfter_cons false first cs
          obtain ⟨d, more, rfl⟩ := List.exists_cons_of_ne_nil some
          have stays := none d List.mem_cons_self
          rw [List.dropWhile_cons_of_neg (by simp [first]), lowered, List.cons_append,
            List.dropWhile_cons_of_neg (by simp [stays])]

/-- What comes in front of a blank is lowered as it is alone. -/
theorem lowerChars_concat_of_isBlankChar (blank : isBlankChar c = true) (cs : List Char) :
    lowerChars (cs ++ [c]) = lowerChars cs ++ [c] := by
  have alone : lowerBefore false [c] cs = lowerBefore false [] cs := by
    refine lowerBefore_eq_iff.mpr ?_
    intro u v _
    rw [casedAhead_append (casedAhead_of_isBlankChar blank), List.append_nil]
  rw [lowerChars, lowerAfter_append, alone, lowerBefore_nil, lowerAfter_cons_of_isBlankChar blank]
  rfl

/-- By induction from the end: the same blanks are at the end. -/
theorem rdropWhile_lowerChars (cs : List Char) :
    (lowerChars cs).rdropWhile isBlankChar = lowerChars (cs.rdropWhile isBlankChar) := by
  induction cs using List.reverseRecOn with
  | nil => rfl
  | append_singleton cs c ih =>
      cases last : isBlankChar c with
      | true =>
          rw [lowerChars_concat_of_isBlankChar last, List.rdropWhile_concat_pos _ _ _ last, ih,
            List.rdropWhile_concat_pos _ _ _ last]
      | false =>
          rw [List.rdropWhile_concat_neg _ _ _ (by simp [last]), List.rdropWhile_eq_self_iff]
          intro some
          obtain ⟨small, filled, none, lowered⟩ :=
            exists_lowerAfter_cons (casedAfter false cs) last []
          have split : lowerChars (cs ++ [c]) = lowerBefore false [c] cs ++ small := by
            rw [lowerChars, lowerAfter_append, lowered, lowerAfter, List.append_nil]
          have stays := none _ (List.getLast_mem filled)
          simp only [split, List.getLast_append_of_ne_nil _ filled, stays]
          exact Bool.false_ne_true

/-- Trimming and lower case go in either order. -/
theorem trim_lower (s : String) : trim (lower s) = lower (trim s) := by
  have chars : trimChars (lowerChars s.toList) = lowerChars (trimChars s.toList) := by
    show ((lowerChars s.toList).dropWhile isBlankChar).rdropWhile isBlankChar = _
    rw [dropWhile_lowerChars, rdropWhile_lowerChars]
    rfl
  rw [trim, lower, String.toList_ofList, chars, lower, trim, String.toList_ofList]

/-- Each character takes at least one in lower case. -/
theorem length_le_length_lowerBefore (before : Bool) (back cs : List Char) :
    cs.length ≤ (lowerBefore before back cs).length := by
  induction cs generalizing before with
  | nil => exact Nat.le_refl 0
  | cons c cs ih =>
      have rest := ih (casedBehind before c)
      have first : 0 < (if c = 'Σ' then [if before && !casedAhead (cs ++ back) then 'ς' else 'σ']
          else lowerChar c).length := by
        split
        · exact Nat.one_pos
        · exact List.length_pos_of_ne_nil (lowerChar_ne_nil c)
      rw [lowerBefore, List.length_append, List.length_cons]
      omega

/-- The blanks at the ends of a text are not lost in lower case. -/
theorem lower_trim_eq_lower_iff {s : String} : lower (trim s) = lower s ↔ trim s = s := by
  refine ⟨?_, congrArg lower⟩
  intro same
  have chars : lowerChars (trimChars s.toList) = lowerChars s.toList := by
    rw [lower, lower, trim, String.toList_ofList] at same
    exact String.ofList_injective same
  obtain ⟨front, back, split⟩ := trimChars_isInfix s.toList
  -- lower case of the text is that of its trimmed form with something around it
  have around := congrArg List.length (lowerChars_around front (trimChars s.toList) back)
  have middle : (lowerChars (trimChars s.toList)).length =
      (lowerBefore (casedAfter false front) back (trimChars s.toList)).length := length_lowerChars
  have frontLength := length_le_length_lowerBefore false (trimChars s.toList ++ back) front
  have backLength := length_le_length_lowerBefore
    (casedAfter false (front ++ trimChars s.toList)) [] back
  rw [lowerBefore_nil] at backLength
  rw [split, ← chars, List.length_append, List.length_append, middle] at around
  have noFront : front = [] := List.length_eq_zero_iff.mp (by omega)
  have noBack : back = [] := List.length_eq_zero_iff.mp (by omega)
  rw [noFront, noBack, List.nil_append, List.append_nil] at split
  exact trim_eq_self_iff.mpr split

end RecordFilter.Text
