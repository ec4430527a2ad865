import RecordFilter.Calendar.Layout
import RecordFilter.Proofs.Digits

/-!
# Fractions of a second written and read

A fraction is nothing, or a point and digits, of which no more than nine count. It is
read as the nanoseconds that it writes if no digit and no point comes behind it, and
the fraction in the text of a time of day is one of those that write its nanoseconds.
-/

namespace RecordFilter.Calendar

open Number

variable {ds rest fraction : List Char} {nano : Nat}

/-- A fraction of a second in nanoseconds, what is smaller left out. -/
inductive WritesFraction : List Char → Nat → Prop
  | whole : WritesFraction [] 0
  | point {ds : List Char} : ds ≠ [] → (∀ c ∈ ds, c.isDigit = true) →
      WritesFraction ('.' :: ds) (ofDigits ds * 10 ^ 9 / 10 ^ ds.length)

theorem spanNanos_append (digits : ∀ c ∈ ds, c.isDigit = true) (ends : DigitsEnd rest) :
    spanNanos (ds ++ rest) = (nanosOfDigits ds digits, rest) := by
  unfold spanNanos
  refine Prod.ext (Fin.ext ?_) (dropWhile_isDigit digits ends)
  simp only [nanosOfDigits, takeWhile_isDigit digits ends]

/-- Behind the ninth digit a fraction is cut off. -/
theorem nanosOfDigits_val (digits : ∀ c ∈ ds, c.isDigit = true) :
    (nanosOfDigits ds digits).val = ofDigits ds * 10 ^ 9 / 10 ^ ds.length := by
  show ofDigits (ds.take 9) * 10 ^ (9 - (ds.take 9).length) = _
  rcases Nat.le_total ds.length 9 with short | long
  · have scale : 10 ^ 9 = 10 ^ (9 - ds.length) * 10 ^ ds.length := by
      rw [← Nat.pow_add, Nat.sub_add_cancel short]
    rw [List.take_of_length_le short, scale, ← Nat.mul_assoc,
      Nat.mul_div_cancel _ (Nat.pow_pos (by decide))]
  · -- all that is behind the ninth digit is less than one of it
    have last : ofDigits (ds.drop 9) < 10 ^ (ds.drop 9).length :=
      ofDigits_lt fun c member => digits c (List.mem_of_mem_drop member)
    have whole : ofDigits ds =
        10 ^ (ds.drop 9).length * ofDigits (ds.take 9) + ofDigits (ds.drop 9) := by
      unfold ofDigits
      rw [← Nat.ofDigitChars_eq_ofDigitChars_zero, ← Nat.ofDigitChars_append,
        List.take_append_drop]
    have scale : 10 ^ ds.length = 10 ^ (ds.drop 9).length * 10 ^ 9 := by
      rw [List.length_drop, ← Nat.pow_add, Nat.sub_add_cancel long]
    have full : (ds.take 9).length = 9 := by
      rw [List.length_take]
      omega
    rw [full, scale, Nat.mul_div_mul_right _ _ (by decide), whole, Nat.sub_self, Nat.pow_zero,
      Nat.mul_one, Nat.mul_add_div (Nat.pow_pos (by decide)), Nat.div_eq_of_lt last, Nat.add_zero]

theorem readFraction_of_writes (written : WritesFraction fraction nano) (fits : nano < 1000000000)
    (ends : DigitsEnd rest) (noPoint : ∀ more, rest ≠ '.' :: more) :
    readFraction (fraction ++ rest) = .ok (⟨nano, fits⟩, rest) := by
  cases written with
  | whole =>
      rw [List.nil_append]
      unfold readFraction
      split
      · rename_i more
        exact absurd rfl (noPoint more)
      · rfl
  | @point ds some digits =>
      have same : nanosOfDigits ds digits = ⟨_, fits⟩ := Fin.ext (nanosOfDigits_val digits)
      rw [← same, ← spanNanos_append digits ends]
      obtain ⟨c, more, rfl⟩ := List.exists_cons_of_ne_nil some
      exact if_pos (digits c List.mem_cons_self)

/-- The fraction in the text of a time of day. -/
theorem writesFraction_fractionText (fits : nano < 1000000000) :
    WritesFraction (TimeOfDay.fractionText nano) nano := by
  have padded_point {width n : Nat} (some : 0 < width) (small : n < 10 ^ width)
      (scaled : n * 10 ^ 9 / 10 ^ width = nano) : WritesFraction ('.' :: padded width n) nano := by
    have written := WritesFraction.point (padded_ne_nil width n) fun _ => isDigit_of_mem_padded
    rwa [ofDigits_padded, length_padded small some, scaled] at written
  unfold TimeOfDay.fractionText
  split
  · rename_i zero
    rw [zero]
    exact .whole
  · split
    · exact padded_point (by decide) (by omega) (by omega)
    · split
      · exact padded_point (by decide) (by omega) (by omega)
      · exact padded_point (by decide) fits (by omega)

theorem readFraction_fractionText (fits : nano < 1000000000) (ends : DigitsEnd rest)
    (noPoint : ∀ more, rest ≠ '.' :: more) :
    readFraction (TimeOfDay.fractionText nano ++ rest) = .ok (⟨nano, fits⟩, rest) :=
  readFraction_of_writes (writesFraction_fractionText fits) fits ends noPoint

end RecordFilter.Calendar
