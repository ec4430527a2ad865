import Mathlib.Algebra.Order.Ring.Int
import RecordFilter.Proofs.Applicability

/-!
# Integer literals

What the literals of the integer types are: a sign and decimal digits that write
a number in the range of the type. Every other text is refused for the first
character from the left that is no digit or takes the number out of the range,
and a literal of a type is one of every wider type as well.
-/

namespace RecordFilter

open Text Results

namespace Number

/-! ## Digits -/

/-- More digits never write less. -/
theorem le_ofDigitChars (cs : List Char) (start : Nat) : start ≤ Nat.ofDigitChars 10 cs start := by
  rw [Nat.ofDigitChars_eq_ofDigitChars_zero]
  have scaled : start ≤ 10 ^ cs.length * start := Nat.le_mul_of_pos_left _ (Nat.pow_pos (by decide))
  omega

namespace IntType

section Magnitude

variable {limit : Nat} {excess fault : IntFault} {start m : Fin (limit + 1)} {c : Char}
  {cs rest : List Char}

theorem magnitudeFrom_of_other (other : c.isDigit = false) :
    magnitudeFrom limit excess start (c :: rest) = .error .invalidDigit := by
  rw [magnitudeFrom, if_neg (by simp [other])]

theorem magnitudeFrom_of_digit (digit : c.isDigit = true)
    (within : 10 * start.val + (c.toNat - '0'.toNat) < limit + 1) :
    magnitudeFrom limit excess start (c :: rest) = magnitudeFrom limit excess ⟨_, within⟩ rest := by
  rw [magnitudeFrom, if_pos digit, dif_pos within]

theorem magnitudeFrom_of_excess (digit : c.isDigit = true)
    (beyond : ¬ 10 * start.val + (c.toNat - '0'.toNat) < limit + 1) :
    magnitudeFrom limit excess start (c :: rest) = .error excess := by
  rw [magnitudeFrom, if_pos digit, dif_neg beyond]

/-- By induction on the digits: they are read as the number that they write. -/
theorem magnitudeFrom_eq_ok_iff : magnitudeFrom limit excess start cs = .ok m ↔
    (∀ c ∈ cs, c.isDigit = true) ∧ Nat.ofDigitChars 10 cs start.val = m.val := by
  induction cs generalizing start with
  | nil => simp [magnitudeFrom, Fin.ext_iff]
  | cons c rest ih =>
      rw [List.forall_mem_cons, Nat.ofDigitChars_cons]
      cases digit : c.isDigit with
      | false => simp [magnitudeFrom_of_other digit]
      | true =>
          by_cases within : 10 * start.val + (c.toNat - '0'.toNat) < limit + 1
          · rw [magnitudeFrom_of_digit digit within, ih]
            simp
          · -- what is beyond the limit once is beyond it with all digits
            rw [magnitudeFrom_of_excess digit within]
            have more := le_ofDigitChars rest (10 * start.val + (c.toNat - '0'.toNat))
            have bounded := m.isLt
            constructor
            · intro read
              cases read
            · intro written
              omega

/-- What stands before the character is read, and at the character the reading
ends with the fault. -/
def StopsAt (limit : Nat) (excess : IntFault) (start : Nat) (before : List Char) (c : Char)
    (fault : IntFault) : Prop :=
  (∀ d ∈ before, d.isDigit = true) ∧ Nat.ofDigitChars 10 before start ≤ limit ∧
    (c.isDigit = false ∧ fault = .invalidDigit ∨
      c.isDigit = true ∧ limit < Nat.ofDigitChars 10 (before ++ [c]) start ∧ fault = excess)

/-- By induction on the digits: the first character that cannot be read decides. -/
theorem magnitudeFrom_eq_error_iff : magnitudeFrom limit excess start cs = .error fault ↔
    ∃ before c after, cs = before ++ c :: after ∧
      StopsAt limit excess start.val before c fault := by
  induction cs generalizing start with
  | nil => simp [magnitudeFrom]
  | cons c rest ih =>
      constructor
      · intro failed
        cases digit : c.isDigit with
        | false =>
            rw [magnitudeFrom_of_other digit] at failed
            exact ⟨[], c, rest, rfl, by simp, Nat.le_of_lt_succ start.isLt,
              .inl ⟨digit, (Except.error.inj failed).symm⟩⟩
        | true =>
            by_cases within : 10 * start.val + (c.toNat - '0'.toNat) < limit + 1
            · rw [magnitudeFrom_of_digit digit within, ih] at failed
              obtain ⟨before, d, after, rfl, digits, read, stops⟩ := failed
              exact ⟨c :: before, d, after, rfl, List.forall_mem_cons.mpr ⟨digit, digits⟩,
                read, stops⟩
            · rw [magnitudeFrom_of_excess digit within] at failed
              refine ⟨[], c, rest, rfl, by simp, Nat.le_of_lt_succ start.isLt,
                .inr ⟨digit, ?_, (Except.error.inj failed).symm⟩⟩
              rw [List.nil_append, Nat.ofDigitChars_cons, Nat.ofDigitChars_nil]
              omega
      · rintro ⟨before, d, after, split, digits, read, stops⟩
        cases before with
        | nil =>
            obtain ⟨rfl, rfl⟩ := List.cons.inj split
            rcases stops with ⟨other, rfl⟩ | ⟨digit, beyond, rfl⟩
            · exact magnitudeFrom_of_other other
            · rw [List.nil_append, Nat.ofDigitChars_cons, Nat.ofDigitChars_nil] at beyond
              exact magnitudeFrom_of_excess digit (by omega)
        | cons e before =>
            obtain ⟨rfl, rfl⟩ := List.cons.inj split
            rw [List.forall_mem_cons] at digits
            -- the digit is read, since those behind it are
            have more := le_ofDigitChars before (10 * start.val + (c.toNat - '0'.toNat))
            rw [Nat.ofDigitChars_cons] at read
            rw [magnitudeFrom_of_digit digits.1 (by omega), ih]
            exact ⟨before, d, after, rfl, digits.2, read, stops⟩

theorem magnitude_eq_ok_iff : magnitude limit excess cs = .ok m ↔
    cs ≠ [] ∧ (∀ c ∈ cs, c.isDigit = true) ∧ ofDigits cs = m.val := by
  unfold magnitude
  cases cs with
  | nil => simp
  | cons c rest =>
      rw [List.isEmpty_cons, if_neg Bool.false_ne_true, magnitudeFrom_eq_ok_iff]
      exact ⟨fun read => ⟨List.cons_ne_nil c rest, read⟩, And.right⟩

theorem magnitude_eq_error_iff : magnitude limit excess cs = .error fault ↔
    (cs = [] ∧ fault = .invalidDigit) ∨
    ∃ before c after, cs = before ++ c :: after ∧ StopsAt limit excess 0 before c fault := by
  unfold magnitude
  cases cs with
  | nil => simp [eq_comm]
  | cons c rest =>
      rw [List.isEmpty_cons, if_neg Bool.false_ne_true, magnitudeFrom_eq_error_iff]
      exact ⟨.inr, fun stops => stops.resolve_left fun empty => List.cons_ne_nil c rest empty.1⟩

end Magnitude

/-! ## Signs -/

theorem two_pow_eq (k : Nat) : (2 : Int) ^ k = (Nat.pow 2 k : Nat) := by
  simp

/-- The number is in the range of the type: as many bits as its width, of which
a signed type uses one for the sign. -/
def Contains (t : IntType) (n : Int) : Prop :=
  if t.signed then -2 ^ (t.width.bits - 1) ≤ n ∧ n < 2 ^ (t.width.bits - 1)
  else 0 ≤ n ∧ n < 2 ^ t.width.bits

/-- The text is a literal for the number: digits after no sign, after a plus
sign, or, if the type is signed, after a minus sign. -/
inductive Writes (t : IntType) : List Char → Int → Prop
  | bare {ds : List Char} : ds ≠ [] → (∀ c ∈ ds, c.isDigit = true) → Writes t ds (ofDigits ds)
  | plus {ds : List Char} : ds ≠ [] → (∀ c ∈ ds, c.isDigit = true) →
      Writes t ('+' :: ds) (ofDigits ds)
  | minus {ds : List Char} : t.signed = true → ds ≠ [] → (∀ c ∈ ds, c.isDigit = true) →
      Writes t ('-' :: ds) (-(ofDigits ds : Int))

/-- The text begins with a sign of the type or with none, and goes on with these
characters. To a type without signs a minus sign is like any other character. -/
inductive Signs (t : IntType) : List Char → (negative : Bool) → List Char → Prop
  | none {cs : List Char} : (∀ rest, cs ≠ '+' :: rest) →
      (t.signed = true → ∀ rest, cs ≠ '-' :: rest) → Signs t cs false cs
  | plus {cs : List Char} : Signs t ('+' :: cs) false cs
  | minus {cs : List Char} : t.signed = true → Signs t ('-' :: cs) true cs

/-- The number that digits write behind a sign. -/
def signedValue (negative : Bool) (ds : List Char) : Int :=
  if negative then -(ofDigits ds : Int) else ofDigits ds

/-- The fault of a number on that side of zero that is out of range. -/
def beyond (negative : Bool) : IntFault :=
  if negative then .tooSmall else .tooLarge

/-- What is wrong with a text, by the first character from the left with which
something is: there are no digits, the character is none, or it takes the number
out of the range. -/
inductive Refuses (t : IntType) (cs : List Char) : IntFault → Prop
  | missing {negative : Bool} : t.Signs cs negative [] → Refuses t cs .invalidDigit
  | digit {negative : Bool} {before after : List Char} {c : Char} :
      t.Signs cs negative (before ++ c :: after) → (∀ d ∈ before, d.isDigit = true) →
      t.Contains (signedValue negative before) → c.isDigit = false → Refuses t cs .invalidDigit
  | range {negative : Bool} {before after : List Char} {c : Char} :
      t.Signs cs negative (before ++ c :: after) → (∀ d ∈ before, d.isDigit = true) →
      t.Contains (signedValue negative before) → c.isDigit = true →
      ¬ t.Contains (signedValue negative (before ++ [c])) → Refuses t cs (beyond negative)

section Signs

variable {t t' : IntType} {n : Int} {m : t.Carrier} {negative : Bool} {cs ds : List Char}
  {fault : IntFault}

theorem contains_iff : t.Contains n ↔ -(t.depth : Int) ≤ n ∧ n ≤ t.upper := by
  have half : 0 < Nat.pow 2 (t.width.bits - 1) := Nat.two_pow_pos _
  have whole : 0 < Nat.pow 2 t.width.bits := Nat.two_pow_pos _
  unfold Contains depth upper
  by_cases signed : t.signed = true
  · simp only [if_pos signed, two_pow_eq]
    omega
  · simp only [if_neg signed, two_pow_eq]
    omega

instance : Decidable (t.Contains n) :=
  decidable_of_iff _ contains_iff.symm

/-- A wider type of the same signedness has all the numbers of a narrower one. -/
theorem Contains.widen (within : t.Contains n) (same : t'.signed = t.signed)
    (wider : t.width.bits ≤ t'.width.bits) : t'.Contains n := by
  unfold Contains at within ⊢
  simp only [same, two_pow_eq] at within ⊢
  split at within
  · rename_i signed
    have more : Nat.pow 2 (t.width.bits - 1) ≤ Nat.pow 2 (t'.width.bits - 1) :=
      Nat.pow_le_pow_right (by decide) (Nat.sub_le_sub_right wider 1)
    rw [if_pos signed]
    omega
  · rename_i unsigned
    have more : Nat.pow 2 t.width.bits ≤ Nat.pow 2 t'.width.bits :=
      Nat.pow_le_pow_right (by decide) wider
    rw [if_neg unsigned]
    omega

theorem Writes.congr (writes : t.Writes cs n) (same : t'.signed = t.signed) : t'.Writes cs n := by
  cases writes with
  | bare some digits => exact .bare some digits
  | plus some digits => exact .plus some digits
  | minus signed some digits => exact .minus (same.trans signed) some digits

/-- How far the type reaches on a side of zero. -/
def reach (t : IntType) (negative : Bool) : Nat :=
  if negative then t.depth else t.upper

theorem contains_signedValue_iff :
    t.Contains (signedValue negative ds) ↔ ofDigits ds ≤ t.reach negative := by
  rw [contains_iff]
  cases negative with
  | true =>
      show -(t.depth : Int) ≤ -(ofDigits ds : Int) ∧ -(ofDigits ds : Int) ≤ t.upper ↔
        ofDigits ds ≤ t.depth
      omega
  | false =>
      show -(t.depth : Int) ≤ (ofDigits ds : Int) ∧ (ofDigits ds : Int) ≤ t.upper ↔
        ofDigits ds ≤ t.upper
      omega

theorem exists_signs (t : IntType) (cs : List Char) : ∃ negative ds, t.Signs cs negative ds := by
  by_cases plus : ∃ rest, cs = '+' :: rest
  · obtain ⟨rest, rfl⟩ := plus
    exact ⟨false, rest, .plus⟩
  · by_cases minus : t.signed = true ∧ ∃ rest, cs = '-' :: rest
    · obtain ⟨signed, rest, rfl⟩ := minus
      exact ⟨true, rest, .minus signed⟩
    · refine ⟨false, cs, .none (not_exists.mp plus) ?_⟩
      intro signed rest same
      exact minus ⟨signed, rest, same⟩

/-- Behind no sign or a plus sign, the digits have to stay below the greatest
number. Where a minus sign is none, it is not a digit either. -/
theorem Signs.read_positive (signs : t.Signs cs false ds) : t.read cs = t.readPositive ds := by
  cases signs with
  | plus => rfl
  | none noPlus noMinus =>
      unfold read
      split
      · rename_i rest
        exact absurd rfl (noPlus rest)
      · rename_i rest
        cases signed : t.signed with
        | true => exact absurd rfl (noMinus signed rest)
        | false =>
            have other : magnitudeFrom t.upper .tooLarge 0 ('-' :: rest) = .error .invalidDigit :=
              magnitudeFrom_of_other rfl
            rw [readPositive, magnitude, List.isEmpty_cons, if_neg Bool.false_ne_true,
              if_neg Bool.false_ne_true, other]
            rfl
      · rfl

theorem Signs.read_negative (signs : t.Signs cs true ds) : t.read cs = t.readNegative ds := by
  cases signs with
  | minus signed =>
      show (if t.signed then t.readNegative ds else .error .invalidDigit) = _
      rw [if_pos signed]

/-- What is read behind a sign is the number that the digits write, if each
number of the type on that side of zero is within the limit. -/
theorem map_magnitude_eq_ok_iff {limit : Nat} {excess : IntFault}
    {f : Fin (limit + 1) → t.Carrier} (sign : Nat → Int) (value : ∀ k, (f k).val = sign k.val)
    (reached : ∀ k, m.val = sign k → k ≤ limit) :
    (magnitude limit excess ds).map f = .ok m ↔
      ds ≠ [] ∧ (∀ c ∈ ds, c.isDigit = true) ∧ m.val = sign (ofDigits ds) := by
  rw [map_eq_ok_iff]
  constructor
  · rintro ⟨k, read, rfl⟩
    obtain ⟨some, digits, same⟩ := magnitude_eq_ok_iff.mp read
    exact ⟨some, digits, by rw [value, same]⟩
  · rintro ⟨some, digits, same⟩
    refine ⟨⟨ofDigits ds, Nat.lt_succ_of_le (reached _ same)⟩,
      magnitude_eq_ok_iff.mpr ⟨some, digits, rfl⟩, Subtype.ext ?_⟩
    rw [value, same]

theorem Signs.read_eq_ok_iff (signs : t.Signs cs negative ds) : t.read cs = .ok m ↔
    ds ≠ [] ∧ (∀ c ∈ ds, c.isDigit = true) ∧ m.val = signedValue negative ds := by
  have within := m.property
  cases negative with
  | true =>
      rw [signs.read_negative, readNegative]
      exact map_magnitude_eq_ok_iff (fun k => -(k : Int)) (fun _ => rfl)
        (fun k same => by omega)
  | false =>
      rw [signs.read_positive, readPositive]
      exact map_magnitude_eq_ok_iff (fun k => (k : Int)) (fun _ => rfl)
        (fun k same => by omega)

theorem Signs.read_eq_error_iff (signs : t.Signs cs negative ds) : t.read cs = .error fault ↔
    (ds = [] ∧ fault = .invalidDigit) ∨ ∃ before c after, ds = before ++ c :: after ∧
      StopsAt (t.reach negative) (beyond negative) 0 before c fault := by
  cases negative with
  | true =>
      rw [signs.read_negative, readNegative, map_eq_error_iff, magnitude_eq_error_iff]
      rfl
  | false =>
      rw [signs.read_positive, readPositive, map_eq_error_iff, magnitude_eq_error_iff]
      rfl

theorem Signs.of_isDigit (digits : ∀ c ∈ cs, c.isDigit = true) : t.Signs cs false cs := by
  have first : ∀ c rest, c.isDigit = false → cs ≠ c :: rest := by
    rintro c rest other rfl
    exact Bool.eq_false_iff.mp other (digits c List.mem_cons_self)
  exact .none (fun rest => first '+' rest rfl) (fun _ rest => first '-' rest rfl)

/-- A literal is a sign of the type or none, and digits behind it. -/
theorem writes_iff : t.Writes cs n ↔ ∃ negative ds, t.Signs cs negative ds ∧
    ds ≠ [] ∧ (∀ c ∈ ds, c.isDigit = true) ∧ n = signedValue negative ds := by
  constructor
  · intro writes
    cases writes with
    | bare some digits => exact ⟨false, cs, .of_isDigit digits, some, digits, rfl⟩
    | plus some digits => exact ⟨false, _, .plus, some, digits, rfl⟩
    | minus signed some digits => exact ⟨true, _, .minus signed, some, digits, rfl⟩
  · rintro ⟨negative, ds, signs, some, digits, rfl⟩
    cases signs with
    | none => exact .bare some digits
    | plus => exact .plus some digits
    | minus signed => exact .minus signed some digits

/-- A text is read as a number just if it is a literal for it. -/
theorem read_eq_ok_iff : t.read cs = .ok m ↔ t.Writes cs m.val := by
  constructor
  · intro read
    obtain ⟨negative, ds, signs⟩ := exists_signs t cs
    exact writes_iff.mpr ⟨negative, ds, signs, signs.read_eq_ok_iff.mp read⟩
  · intro writes
    obtain ⟨negative, ds, signs, written⟩ := writes_iff.mp writes
    exact signs.read_eq_ok_iff.mpr written

/-- A text is refused for the first character with which something is wrong. -/
theorem read_eq_error_iff : t.read cs = .error fault ↔ t.Refuses cs fault := by
  constructor
  · intro failed
    obtain ⟨negative, ds, signs⟩ := exists_signs t cs
    rcases signs.read_eq_error_iff.mp failed with
      ⟨rfl, rfl⟩ | ⟨before, c, after, rfl, digits, within, stops⟩
    · exact .missing signs
    · rcases stops with ⟨other, rfl⟩ | ⟨digit, excess, rfl⟩
      · exact .digit signs digits (contains_signedValue_iff.mpr within) other
      · refine .range signs digits (contains_signedValue_iff.mpr within) digit ?_
        rw [contains_signedValue_iff]
        exact Nat.not_le_of_lt excess
  · intro refused
    cases refused with
    | missing signs => exact signs.read_eq_error_iff.mpr (.inl ⟨rfl, rfl⟩)
    | digit signs digits within other =>
        exact signs.read_eq_error_iff.mpr (.inr ⟨_, _, _, rfl, digits,
          contains_signedValue_iff.mp within, .inl ⟨other, rfl⟩⟩)
    | range signs digits within digit excess =>
        rw [contains_signedValue_iff] at excess
        exact signs.read_eq_error_iff.mpr (.inr ⟨_, _, _, rfl, digits,
          contains_signedValue_iff.mp within, .inr ⟨digit, Nat.lt_of_not_le excess, rfl⟩⟩)

end Signs

end IntType

end Number

namespace Literal

open Number

variable {t : IntType} {literal : String} {v : Value} {fault : LiteralFault}

/-! ## Constants -/

/-- A constant is what a literal is read as. -/
theorem constant_eq_ok_iff {t : ValueType} :
    constant t literal = .ok v ↔ ∃ x, read t literal = .ok x ∧ t.value x = v := by
  unfold constant
  split
  · rename_i x found
    simp [found]
  · rename_i fault found
    simp [found]

theorem read_eq_error_of_isBlank {t : ValueType} (blank : isBlank literal = true) :
    read t literal = .error .empty := by
  unfold read
  rw [trim_eq_empty_iff.mpr blank]
  rfl

theorem read_int (some : isBlank literal = false) :
    read (.int t) literal = (t.read (trim literal).toList).mapError .int := by
  rw [isBlank_eq_false_iff] at some
  unfold read
  exact if_neg some

theorem read_int_eq_ok_iff {x : t.Carrier} (some : isBlank literal = false) :
    read (.int t) literal = .ok x ↔ t.Writes (trim literal).toList x.val := by
  rw [read_int some, ← IntType.read_eq_ok_iff]
  exact mapError_eq_ok_iff

theorem read_int_eq_error_iff (some : isBlank literal = false) :
    read (.int t) literal = .error fault ↔
      ∃ cause, t.Refuses (trim literal).toList cause ∧ .int cause = fault := by
  rw [read_int some]
  simp only [← IntType.read_eq_error_iff]
  exact mapError_eq_error_iff

theorem isBlank_eq_false_of_writes {n : Int} (writes : t.Writes (trim literal).toList n) :
    isBlank literal = false := by
  rw [isBlank_eq_false_iff]
  intro empty
  rw [empty] at writes
  cases writes with
  | bare some _ => exact some rfl

theorem constant_int_eq_ok_iff : constant (.int t) literal = .ok v ↔
    ∃ n, t.Contains n ∧ t.Writes (trim literal).toList n ∧
      v = if t.signed then .int n else .uint n.toNat := by
  rw [constant_eq_ok_iff]
  constructor
  · rintro ⟨x, found, rfl⟩
    cases some : isBlank literal with
    | true => simp [read_eq_error_of_isBlank some] at found
    | false =>
        exact ⟨x.val, IntType.contains_iff.mpr x.property, (read_int_eq_ok_iff some).mp found, rfl⟩
  · rintro ⟨n, within, writes, rfl⟩
    have some := isBlank_eq_false_of_writes writes
    exact ⟨⟨n, IntType.contains_iff.mp within⟩, (read_int_eq_ok_iff some).mpr writes, rfl⟩

/-- **Integer literals.** The literals of an integer type are those that write a
number of the type, and they stand for it. Any other text is blank, or there is a
first character with which something is wrong. What a literal stands for does not
depend on the width of the type. -/
theorem constant_int (t : IntType) (literal : String) :
    (∀ v, constant (.int t) literal = .ok v ↔
      ∃ n, t.Contains n ∧ t.Writes (trim literal).toList n ∧
        v = if t.signed then .int n else .uint n.toNat) ∧
    (isBlank literal = true →
      constant (.int t) literal = .error (.invalidValue literal (.int t) .empty)) ∧
    (isBlank literal = false → ∀ e, constant (.int t) literal = .error e ↔
      ∃ fault, t.Refuses (trim literal).toList fault ∧
        e = .invalidValue literal (.int t) (.int fault)) ∧
    ∀ (wider : IntType) (v : Value), wider.signed = t.signed → t.width.bits ≤ wider.width.bits →
      constant (.int t) literal = .ok v → constant (.int wider) literal = .ok v := by
  refine ⟨fun v => constant_int_eq_ok_iff, ?_, ?_, ?_⟩
  · intro blank
    exact constant_eq_error_iff.mpr ⟨_, read_eq_error_of_isBlank blank, rfl⟩
  · intro some e
    rw [constant_eq_error_iff]
    simp only [read_int_eq_error_iff some]
    constructor
    · rintro ⟨_, ⟨fault, refused, rfl⟩, rfl⟩
      exact ⟨fault, refused, rfl⟩
    · rintro ⟨fault, refused, rfl⟩
      exact ⟨_, ⟨fault, refused, rfl⟩, rfl⟩
  · intro wider v same more read
    obtain ⟨n, within, writes, rfl⟩ := constant_int_eq_ok_iff.mp read
    exact constant_int_eq_ok_iff.mpr
      ⟨n, within.widen same more, writes.congr same, by rw [same]⟩

/-- The least number of eight bits, with zeros before it and blanks around it; a
number that is too large before it comes to the letter, and one that is not. -/
theorem constant_int_bytes :
    constant (.int ⟨true, .w8⟩) " -00128 " = .ok (.int (-128)) ∧
    constant (.int ⟨true, .w64⟩) " -00128 " = .ok (.int (-128)) ∧
    constant (.int ⟨true, .w8⟩) " " = .error (.invalidValue " " (.int ⟨true, .w8⟩) .empty) ∧
    constant (.int ⟨false, .w8⟩) "256x" =
      .error (.invalidValue "256x" (.int ⟨false, .w8⟩) (.int .tooLarge)) ∧
    constant (.int ⟨false, .w8⟩) "25x6" =
      .error (.invalidValue "25x6" (.int ⟨false, .w8⟩) (.int .invalidDigit)) := by
  have least : constant (.int ⟨true, .w8⟩) " -00128 " = .ok (.int (-128)) := by
    refine ((constant_int ⟨true, .w8⟩ " -00128 ").1 _).mpr ⟨-128, by decide, ?_, rfl⟩
    have trimmed : (trim " -00128 ").toList = '-' :: ['0', '0', '1', '2', '8'] := by decide +kernel
    rw [trimmed]
    exact .minus rfl (List.cons_ne_nil _ _) (List.all_eq_true.mp rfl)
  refine ⟨least, ?_, ?_, ?_, ?_⟩
  · exact (constant_int ⟨true, .w8⟩ " -00128 ").2.2.2 ⟨true, .w64⟩ _ rfl (by decide) least
  · exact (constant_int ⟨true, .w8⟩ " ").2.1 (by decide +kernel)
  · refine ((constant_int ⟨false, .w8⟩ "256x").2.2.1 (by decide +kernel) _).mpr ⟨_, ?_, rfl⟩
    have trimmed : (trim "256x").toList = ['2', '5', '6', 'x'] := by decide +kernel
    rw [trimmed]
    have noSign : IntType.Signs ⟨false, .w8⟩ _ false (['2', '5'] ++ '6' :: ['x']) :=
      .none (by simp) nofun
    exact .range noSign (List.all_eq_true.mp rfl) (by decide) rfl (by decide)
  · refine ((constant_int ⟨false, .w8⟩ "25x6").2.2.1 (by decide +kernel) _).mpr ⟨_, ?_, rfl⟩
    have trimmed : (trim "25x6").toList = ['2', '5', 'x', '6'] := by decide +kernel
    rw [trimmed]
    have noSign : IntType.Signs ⟨false, .w8⟩ _ false (['2', '5'] ++ 'x' :: ['6']) :=
      .none (by simp) nofun
    exact .digit noSign (List.all_eq_true.mp rfl) (by decide) rfl

end Literal

end RecordFilter
