/-!
# Decimal digits

Whole numbers in the decimal system: their digits, alone, with a sign, or
padded to a width.
-/

namespace RecordFilter.Number

/-- The digits of a number without leading zeros. -/
def digits (n : Nat) : List Char :=
  Nat.toDigits 10 n

/-- The digits of a number, filled up with zeros in front to the width. -/
def padded (width n : Nat) : List Char :=
  List.replicate (width - (digits n).length) '0' ++ digits n

/-- The digits of an integer after a minus sign if it is negative. -/
def signedDigits (n : Int) : List Char :=
  if n < 0 then '-' :: digits n.natAbs else digits n.natAbs

/-- The number that a list of digits writes. -/
def ofDigits (cs : List Char) : Nat :=
  Nat.ofDigitChars 10 cs 0

/-- The digits that a text begins with, and the rest. -/
def spanDigits (cs : List Char) : List Char × List Char :=
  (cs.takeWhile Char.isDigit, cs.dropWhile Char.isDigit)

private theorem ofDigitChars_lt {cs : List Char} (h : ∀ c ∈ cs, c.isDigit) (start : Nat) :
    Nat.ofDigitChars 10 cs start < (start + 1) * Nat.pow 10 cs.length := by
  simp only [Nat.pow_eq]
  induction cs generalizing start with
  | nil => simp
  | cons c rest ih =>
    have digit : c.toNat - '0'.toNat < 10 := by
      have := h c (by simp)
      simp only [Char.isDigit, Bool.and_eq_true, decide_eq_true_eq, ge_iff_le,
        UInt32.le_iff_toNat_le] at this
      have upper : c.toNat ≤ 57 := this.2
      have zero : '0'.toNat = 48 := rfl
      omega
    have tail := ih (fun c hc => h c (by simp [hc])) (10 * start + (c.toNat - '0'.toNat))
    rw [Nat.ofDigitChars_cons]
    refine Nat.lt_of_lt_of_le tail ?_
    rw [List.length_cons, Nat.pow_succ, Nat.mul_comm (10 ^ rest.length) 10, ← Nat.mul_assoc]
    exact Nat.mul_le_mul_right _ (by omega)

/-- As many digits write a number below that power of ten. -/
theorem ofDigits_lt {cs : List Char} (h : ∀ c ∈ cs, c.isDigit) :
    ofDigits cs < Nat.pow 10 cs.length := by
  simpa [ofDigits] using ofDigitChars_lt h 0

end RecordFilter.Number
