import Mathlib.Algebra.Order.Ring.Nat
import Mathlib.Data.List.TakeWhile
import RecordFilter.Number.Decimal
import RecordFilter.Text.Blank

/-!
# Digits written and read back

The digits of a number write that number, also with zeros in front, and they are
what a text begins with if no digit comes behind them.
-/

namespace RecordFilter

namespace Number

variable {cs ds rest : List Char} {width n : Nat} {c : Char}

/-! ## Writing -/

theorem isDigit_of_mem_digits (member : c ∈ digits n) : c.isDigit = true :=
  Nat.isDigit_of_mem_toDigits (by decide) (by decide) member

theorem digits_ne_nil (n : Nat) : digits n ≠ [] :=
  Nat.toDigits_ne_nil

theorem ofDigits_digits (n : Nat) : ofDigits (digits n) = n :=
  Nat.ofDigitChars_ten_toDigits

theorem length_digits_le (small : n < 10 ^ width) (some : 0 < width) :
    (digits n).length ≤ width :=
  (Nat.length_toDigits_le_iff (by decide) some).mpr small

theorem isDigit_of_mem_padded (member : c ∈ padded width n) : c.isDigit = true := by
  rcases List.mem_append.mp member with zero | digit
  · rw [List.eq_of_mem_replicate zero]
    rfl
  · exact isDigit_of_mem_digits digit

theorem padded_ne_nil (width n : Nat) : padded width n ≠ [] :=
  List.append_ne_nil_of_right_ne_nil _ (digits_ne_nil n)

theorem exists_padded_eq_cons (width n : Nat) :
    ∃ c more, padded width n = c :: more ∧ c.isDigit = true := by
  obtain ⟨c, more, first⟩ := List.exists_cons_of_ne_nil (padded_ne_nil width n)
  exact ⟨c, more, first, isDigit_of_mem_padded (first ▸ List.mem_cons_self)⟩

theorem ofDigits_padded (width n : Nat) : ofDigits (padded width n) = n := by
  rw [ofDigits, padded, Nat.ofDigitChars_append, Nat.ofDigitChars_replicate_zero]
  exact ofDigits_digits n

/-- A number that needs no more digits is filled up to the width. -/
theorem length_padded (small : n < 10 ^ width) (some : 0 < width) :
    (padded width n).length = width := by
  have short := length_digits_le small some
  rw [padded, List.length_append, List.length_replicate]
  omega

/-! ## Reading -/

theorem toNat_of_isDigit (digit : c.isDigit = true) : 48 ≤ c.toNat ∧ c.toNat ≤ 57 := by
  simpa [Char.isDigit, UInt32.le_iff_toNat_le] using digit

theorem isBlankChar_of_isDigit (digit : c.isDigit = true) : Text.isBlankChar c = false := by
  have range := toNat_of_isDigit digit
  grind [Text.isBlankChar]

/-- No digit comes next. -/
def DigitsEnd (rest : List Char) : Prop :=
  ∀ c ∈ rest.head?, c.isDigit = false

theorem digitsEnd_nil : DigitsEnd [] := by
  simp [DigitsEnd]

theorem digitsEnd_cons : DigitsEnd (c :: rest) ↔ c.isDigit = false := by
  simp [DigitsEnd]

theorem DigitsEnd.takeWhile (ends : DigitsEnd rest) : rest.takeWhile Char.isDigit = [] := by
  cases rest with
  | nil => rfl
  | cons c rest => rw [List.takeWhile_cons, digitsEnd_cons.mp ends, if_neg Bool.false_ne_true]

theorem takeWhile_isDigit (digits : ∀ c ∈ ds, c.isDigit = true) (ends : DigitsEnd rest) :
    (ds ++ rest).takeWhile Char.isDigit = ds := by
  rw [List.takeWhile_append_of_pos digits, ends.takeWhile, List.append_nil]

theorem dropWhile_isDigit (digits : ∀ c ∈ ds, c.isDigit = true) (ends : DigitsEnd rest) :
    (ds ++ rest).dropWhile Char.isDigit = rest := by
  have parts := List.takeWhile_append_dropWhile (p := Char.isDigit) (l := ds ++ rest)
  rw [takeWhile_isDigit digits ends] at parts
  exact List.append_cancel_left parts

/-- As many digits as are looked at are found, whatever comes behind them. -/
theorem take_takeWhile_isDigit (digits : ∀ c ∈ ds, c.isDigit = true)
    (full : ds.length = width) : ((ds ++ rest).takeWhile Char.isDigit).take width = ds := by
  rw [List.takeWhile_append_of_pos digits, ← full, List.take_left]

end Number

end RecordFilter
