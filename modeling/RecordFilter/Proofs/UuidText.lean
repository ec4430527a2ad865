import Mathlib.Algebra.Order.Ring.Nat
import RecordFilter.Proofs.Segments
import RecordFilter.Uuid

/-!
# UUIDs written and read back

The text of a UUID is thirty-two digits in five groups. It is as long as a text
in groups has to be, its groups are found again between the hyphens, and each
digit is read as what it is the digit of.
-/

namespace RecordFilter

open Number

namespace Uuid

/-! ## Stretches of a list -/

section Stretches

variable {α : Type} {lengths : List Nat} {xs : List α}

theorem mem_of_mem_stretches {stretch : List α} {x : α} (among : stretch ∈ stretches lengths xs)
    (member : x ∈ stretch) : x ∈ xs := by
  induction lengths generalizing xs with
  | nil => cases among
  | cons n lengths ih =>
      rcases List.mem_cons.mp among with rfl | among
      · exact List.mem_of_mem_take member
      · exact List.mem_of_mem_drop (ih among)

/-- Stretches that use up the list make it up again. -/
theorem flatten_stretches (whole : xs.length = lengths.sum) :
    (stretches lengths xs).flatten = xs := by
  induction lengths generalizing xs with
  | nil => exact (List.eq_nil_of_length_eq_zero whole).symm
  | cons n lengths ih =>
      have rest : (xs.drop n).length = lengths.sum := by
        rw [List.length_drop, whole, List.sum_cons, Nat.add_sub_cancel_left]
      rw [stretches, List.flatten_cons, ih rest, List.take_append_drop]

theorem map_length_stretches (whole : xs.length = lengths.sum) :
    (stretches lengths xs).map List.length = lengths := by
  induction lengths generalizing xs with
  | nil => rfl
  | cons n lengths ih =>
      rw [List.sum_cons] at whole
      have rest : (xs.drop n).length = lengths.sum := by
        rw [List.length_drop, whole, Nat.add_sub_cancel_left]
      rw [stretches, List.map_cons, ih rest, List.length_take, Nat.min_eq_left (by omega)]

end Stretches

/-! ## Digits -/

theorem mapM_hexValue? (ds : List (Fin 16)) : (ds.map hexDigit).mapM hexValue? = some ds := by
  induction ds with
  | nil => rfl
  | cons n ds ih => rw [List.map_cons, List.mapM_cons, hexValue?_hexDigit, ih]; rfl

theorem hexDigit_ne_hyphen (n : Fin 16) : hexDigit n ≠ '-' := by
  revert n
  decide

theorem utf8Size_hexDigit (n : Fin 16) : (hexDigit n).utf8Size = 1 := by
  revert n
  decide

/-! ## The text -/

theorem length_map_digits (u : Uuid) : (u.digits.map hexDigit).length = groupLengths.sum := by
  rw [List.length_map, u.length_digits]
  rfl

/-- Every character of the text is a digit or a hyphen. -/
theorem eq_of_mem_chars {u : Uuid} {c : Char} (member : c ∈ u.chars) :
    c = '-' ∨ ∃ n, hexDigit n = c := by
  rcases Text.mem_intercalate_iff.mp member with ⟨group, among, inside⟩ | ⟨-, hyphen⟩
  · obtain ⟨n, -, same⟩ := List.mem_map.mp (mem_of_mem_stretches among inside)
    exact .inr ⟨n, same⟩
  · exact .inl (List.mem_singleton.mp hyphen)

theorem length_chars (u : Uuid) : u.chars.length = 36 := by
  have whole := u.length_map_digits
  unfold chars groupLengths
  simp only [stretches, List.intercalate_cons_cons, List.intercalate_singleton, List.length_append,
    List.length_take, List.length_drop, List.length_singleton, whole]
  decide

theorem utf8Size_of_mem_chars {u : Uuid} {c : Char} (member : c ∈ u.chars) : c.utf8Size = 1 := by
  rcases eq_of_mem_chars member with rfl | ⟨n, rfl⟩
  · rfl
  · exact utf8Size_hexDigit n

theorem byteLength_eq_length {cs : List Char} (single : ∀ c ∈ cs, c.utf8Size = 1) :
    byteLength cs = cs.length := by
  induction cs with
  | nil => rfl
  | cons c rest ih =>
      rw [List.forall_mem_cons] at single
      rw [byteLength, List.foldr_cons, single.1, List.length_cons, Nat.add_comm]
      exact congrArg (· + 1) (ih single.2)

/-- The groups are what stands between the hyphens. -/
theorem splitOn_chars (u : Uuid) :
    u.chars.splitOn '-' = stretches groupLengths (u.digits.map hexDigit) := by
  refine List.splitOn_intercalate '-' ?_ nofun
  intro group among hyphen
  obtain ⟨n, -, same⟩ := List.mem_map.mp (mem_of_mem_stretches among hyphen)
  exact hexDigit_ne_hyphen n same

theorem ofGroups?_chars (u : Uuid) : ofGroups? u.chars = some u := by
  have whole := u.length_map_digits
  unfold ofGroups?
  rw [splitOn_chars, if_pos (map_length_stretches whole), flatten_stretches whole, ofHex?,
    mapM_hexValue?]
  exact dif_pos u.length_digits

theorem read_chars (u : Uuid) : read u.chars = .ok u := by
  have bytes : byteLength u.chars = 36 := by
    rw [byteLength_eq_length fun _ => utf8Size_of_mem_chars, length_chars]
  have grouped : grouped? u.chars = some u.chars := if_pos bytes
  unfold read
  simp only [grouped, ofGroups?_chars]

theorem read_text (u : Uuid) : read u.text.toList = .ok u := by
  rw [text, String.toList_ofList, read_chars]

end Uuid

end RecordFilter
