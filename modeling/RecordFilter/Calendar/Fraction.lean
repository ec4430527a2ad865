import RecordFilter.Number.Decimal

/-!
# Fractions of a second
-/

namespace RecordFilter.Calendar

open RecordFilter.Number

/-- The nanoseconds that the digits after the point stand for; digits after
the ninth do not count. -/
def nanosOfDigits (ds : List Char) (h : ∀ c ∈ ds, c.isDigit) : Fin 1000000000 :=
  ⟨ofDigits (ds.take 9) * Nat.pow 10 (9 - (ds.take 9).length), by
    have bound := @ofDigits_lt (ds.take 9) (fun c hc => h c (List.mem_of_mem_take hc))
    have short : (ds.take 9).length ≤ 9 := List.length_take_le 9 ds
    simp only [Nat.pow_eq] at bound ⊢
    calc ofDigits (ds.take 9) * 10 ^ (9 - (ds.take 9).length)
        < 10 ^ (ds.take 9).length * 10 ^ (9 - (ds.take 9).length) :=
          Nat.mul_lt_mul_of_pos_right bound (Nat.pow_pos (by decide))
      _ = 10 ^ 9 := by rw [← Nat.pow_add]; congr 1; omega
      _ = 1000000000 := rfl⟩

/-- The fraction that a text begins with, its point already taken: the digits
as nanoseconds, and the rest. -/
def spanNanos (cs : List Char) : Fin 1000000000 × List Char :=
  (nanosOfDigits (cs.takeWhile Char.isDigit) (List.all_eq_true.mp List.all_takeWhile),
    cs.dropWhile Char.isDigit)

end RecordFilter.Calendar
