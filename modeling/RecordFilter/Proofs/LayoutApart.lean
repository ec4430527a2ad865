import Mathlib.Data.List.DropRight
import RecordFilter.Proofs.CalendarText

/-!
# Layouts apart

What a layout leaves of a text does not depend on the numbers that are read on the way.
So two layouts that begin alike part where they differ, and if what is left there cannot
go on both ways, no text fits both of them.
-/

namespace RecordFilter.Calendar

open Number Results Text

/-! ## What is left of a text -/

/-- What an item leaves of a text. -/
def LayoutItem.rest? (item : LayoutItem) (cs : List Char) : Option (List Char) :=
  (item.read {} cs).toOption.map Prod.snd

/-- What a layout leaves of a text. -/
def Layout.rest? : Layout → List Char → Option (List Char)
  | [], cs => some cs
  | item :: items, cs => (item.rest? cs).bind (Layout.rest? items)

variable {cs rest mid : List Char} {c : Char} {f g : Fields} {l m : Layout}

namespace LayoutItem

/-- The fields are filled, but they decide nothing. -/
theorem read_map_snd (item : LayoutItem) (f g : Fields) (cs : List Char) :
    (item.read f cs).map Prod.snd = (item.read g cs).map Prod.snd := by
  unfold read
  cases item with
  | year => cases readYear (skipBlanks cs) <;> rfl
  | month => cases readUpTo 12 (skipBlanks cs) <;> rfl
  | day => cases readUpTo 31 (skipBlanks cs) <;> rfl
  | hour => cases readBelow 24 (skipBlanks cs) <;> rfl
  | minute => cases readBelow 60 (skipBlanks cs) <;> rfl
  | second => cases readBelow 61 (skipBlanks cs) <;> rfl
  | fraction => cases readFraction cs <;> rfl
  | mark expected =>
      cases cs with
      | nil => rfl
      | cons c rest => by_cases same : c = expected <;> simp [same, Except.map]
  | gap => rfl

theorem rest?_of_read {item : LayoutItem} (read : item.read f cs = .ok (g, rest)) :
    item.rest? cs = some rest := by
  have same := item.read_map_snd {} f cs
  rw [read] at same
  obtain ⟨found, first, left⟩ := map_eq_ok_iff.mp same
  rw [rest?, first]
  exact congrArg some left

theorem exists_read_of_rest? {item : LayoutItem} (left : item.rest? cs = some rest) :
    ∃ f, item.read {} cs = .ok (f, rest) := by
  unfold rest? at left
  cases found : item.read {} cs with
  | error fault =>
      rw [found] at left
      cases left
  | ok p =>
      rw [found] at left
      obtain rfl : p.2 = rest := Option.some.inj left
      exact ⟨p.1, rfl⟩

theorem rest?_mark_eq_some_iff : (mark c).rest? cs = some rest ↔ cs = c :: rest := by
  cases cs with
  | nil => simp [rest?, read, Except.toOption]
  | cons d cs => by_cases same : d = c <;> simp [rest?, read, same, Except.toOption]

theorem rest?_gap (cs : List Char) : gap.rest? cs = some (skipBlanks cs) :=
  rfl

end LayoutItem

namespace Layout

theorem rest?_cons (item : LayoutItem) (items : Layout) (cs : List Char) :
    rest? (item :: items) cs = (item.rest? cs).bind (rest? items) :=
  rfl

theorem rest?_cons_of {item : LayoutItem} (left : item.rest? cs = some mid) (items : Layout) :
    rest? (item :: items) cs = rest? items mid := by
  rw [rest?_cons, left, Option.bind_some]

theorem rest?_mark_cons (c : Char) (items : Layout) (cs : List Char) :
    rest? (.mark c :: items) (c :: cs) = rest? items cs :=
  rest?_cons_of (LayoutItem.rest?_mark_eq_some_iff.mpr rfl) items

theorem rest?_append (l m : Layout) (cs : List Char) :
    rest? (l ++ m) cs = (l.rest? cs).bind m.rest? := by
  induction l generalizing cs with
  | nil => rfl
  | cons item items ih =>
      rw [List.cons_append, rest?_cons, rest?_cons, Option.bind_assoc]
      exact congrArg _ (funext ih)

/-- By induction on the items: a text that fits is used up. -/
theorem rest?_of_scan (fits : l.scan f cs = .ok g) : l.rest? cs = some [] := by
  induction l generalizing f cs with
  | nil =>
      unfold scan at fits
      split at fits
      · rename_i empty
        rw [rest?, List.isEmpty_iff.mp empty]
      · cases fits
  | cons item items ih =>
      obtain ⟨⟨g', rest⟩, read, others⟩ := bind_eq_ok_iff.mp fits
      rw [rest?_cons_of (LayoutItem.rest?_of_read read)]
      exact ih others

end Layout

/-! ## Numbers -/

/-- A number begins with a digit, and it consists of digits. -/
theorem readNumber_eq_ok {most n : Nat} (read : readNumber most cs = .ok (n, rest)) :
    (∃ c more, cs = c :: more ∧ c.isDigit = true) ∧
      ∃ ds, cs = ds ++ rest ∧ ∀ d ∈ ds, d.isDigit = true := by
  cases cs with
  | nil => cases read
  | cons c more =>
      rw [readNumber] at read
      split at read
      · rename_i digit
        obtain ⟨-, rfl⟩ := Prod.mk.inj (Except.ok.inj read)
        have front : ((c :: more).takeWhile Char.isDigit).take most <+: c :: more :=
          (List.take_prefix most _).trans (List.takeWhile_prefix Char.isDigit)
        refine ⟨⟨c, more, rfl, digit⟩, _, (List.prefix_iff_eq_append.mp front).symm, ?_⟩
        intro d member
        exact List.mem_takeWhile_imp (List.mem_of_mem_take member)
      · cases read

/-- Where something else than a digit is left, all the digits are read. -/
theorem eq_dropWhile_of_readNumber {most n : Nat} (read : readNumber most cs = .ok (n, rest))
    (ends : DigitsEnd rest) : rest = cs.dropWhile Char.isDigit := by
  obtain ⟨-, ds, rfl, digits⟩ := readNumber_eq_ok read
  exact (dropWhile_isDigit digits ends).symm

theorem readNumber_of_readUpTo {greatest n : Nat} (read : readUpTo greatest cs = .ok (n, rest)) :
    readNumber 2 cs = .ok (n, rest) := by
  obtain ⟨⟨k, behind⟩, digits, checked⟩ := bind_eq_ok_iff.mp read
  simp only at checked
  split at checked
  · cases checked
    exact digits
  · cases checked

theorem readNumber_of_readBelow {limit : Nat} {n : Fin limit}
    (read : readBelow limit cs = .ok (n, rest)) : readNumber 2 cs = .ok (n.val, rest) := by
  obtain ⟨⟨k, behind⟩, digits, checked⟩ := bind_eq_ok_iff.mp read
  simp only at checked
  split at checked
  · cases checked
    exact digits
  · cases checked

namespace LayoutItem

theorem readNumber_of_rest?_month (left : month.rest? cs = some rest) :
    ∃ n, readNumber 2 (skipBlanks cs) = .ok (n, rest) := by
  obtain ⟨f, read⟩ := exists_read_of_rest? left
  obtain ⟨⟨n, behind⟩, number, same⟩ := bind_eq_ok_iff.mp read
  obtain ⟨-, rfl⟩ := Prod.mk.inj (Except.ok.inj same)
  exact ⟨n, readNumber_of_readUpTo number⟩

theorem readNumber_of_rest?_hour (left : hour.rest? cs = some rest) :
    ∃ n, readNumber 2 (skipBlanks cs) = .ok (n, rest) := by
  obtain ⟨f, read⟩ := exists_read_of_rest? left
  obtain ⟨⟨n, behind⟩, number, same⟩ := bind_eq_ok_iff.mp read
  obtain ⟨-, rfl⟩ := Prod.mk.inj (Except.ok.inj same)
  exact ⟨n, readNumber_of_readBelow number⟩

/-- A year without a sign has four digits at most. -/
theorem readNumber_of_rest?_year {more : List Char} (left : year.rest? cs = some rest)
    (first : skipBlanks cs = c :: more) (digit : c.isDigit = true) :
    ∃ n, readNumber 4 (skipBlanks cs) = .ok (n, rest) := by
  obtain ⟨f, read⟩ := exists_read_of_rest? left
  obtain ⟨⟨n, behind⟩, number, same⟩ := bind_eq_ok_iff.mp read
  obtain ⟨-, rfl⟩ := Prod.mk.inj (Except.ok.inj same)
  rw [first, readYear_of_isDigit digit] at number
  obtain ⟨⟨k, behind'⟩, digits, same'⟩ := map_eq_ok_iff.mp number
  obtain ⟨-, rfl⟩ := Prod.mk.inj same'
  rw [first]
  exact ⟨_, digits⟩

/-- A number begins with a digit, so a blank in front of it makes no difference. -/
theorem rest?_hour_skipBlanks (cs : List Char) : hour.rest? (skipBlanks cs) = hour.rest? cs := by
  have twice : skipBlanks (skipBlanks cs) = skipBlanks cs := List.dropWhile_idempotent _ _
  unfold rest? read
  rw [twice]

theorem rest?_hour_of_other (visible : isBlankChar c = false) (other : c.isDigit = false) :
    hour.rest? (c :: cs) = none := by
  rw [Option.eq_none_iff_forall_ne_some]
  intro rest left
  obtain ⟨n, digits⟩ := readNumber_of_rest?_hour left
  rw [skipBlanks_cons visible] at digits
  obtain ⟨⟨d, more, first, digit⟩, -⟩ := readNumber_eq_ok digits
  rw [← (List.cons.inj first).1, other] at digit
  cases digit

end LayoutItem

/-! ## Layouts that no text fits both of -/

namespace Layout

/-- No text fits both layouts. -/
def Apart (l m : Layout) : Prop :=
  ∀ cs, l.rest? cs = some [] → m.rest? cs ≠ some []

theorem Apart.symm (apart : Apart l m) : Apart m l := by
  intro cs second first
  exact apart cs first second

/-- What the two have in common leaves the same of a text. -/
theorem Apart.append_left (p : Layout) (apart : Apart l m) : Apart (p ++ l) (p ++ m) := by
  intro cs first second
  rw [rest?_append] at first second
  obtain ⟨mid, common, first⟩ := Option.bind_eq_some_iff.mp first
  rw [common] at second
  exact apart mid first second

/-- One layout ends where the other one cannot. -/
theorem apart_nil (goesOn : l.rest? [] ≠ some []) : Apart l [] := by
  intro cs first second
  obtain rfl : cs = [] := Option.some.inj second
  exact goesOn first

/-- A gap before the hour is no more than the blanks before a number. -/
theorem rest?_gap_hour (l : Layout) (cs : List Char) :
    rest? (.gap :: .hour :: l) cs = rest? (.hour :: l) cs := by
  rw [rest?_cons_of (LayoutItem.rest?_gap cs), rest?_cons, rest?_cons,
    LayoutItem.rest?_hour_skipBlanks]

theorem apart_mark_gap (visible : isBlankChar c = false) (other : c.isDigit = false) :
    Apart (.mark c :: l) (.gap :: .hour :: m) := by
  intro cs first second
  obtain ⟨rest, left, -⟩ := Option.bind_eq_some_iff.mp first
  obtain rfl := LayoutItem.rest?_mark_eq_some_iff.mp left
  rw [rest?_gap_hour, rest?_cons, LayoutItem.rest?_hour_of_other visible other] at second
  cases second

/-- What follows the first number of a text is a hyphen or a slash, but not both: if a
year and a month both end before something else than a digit, they end at the same
place. -/
theorem not_iso_and_slash (iso : isoDate.rest? cs = some rest)
    (slash : slashDate.rest? cs = some mid) : False := by
  obtain ⟨behindYear, year, hyphen⟩ := Option.bind_eq_some_iff.mp iso
  obtain ⟨behindMonth, month, slash⟩ := Option.bind_eq_some_iff.mp slash
  obtain ⟨_, hyphen, -⟩ := Option.bind_eq_some_iff.mp hyphen
  obtain ⟨_, slash, -⟩ := Option.bind_eq_some_iff.mp slash
  obtain rfl := LayoutItem.rest?_mark_eq_some_iff.mp hyphen
  obtain rfl := LayoutItem.rest?_mark_eq_some_iff.mp slash
  -- the month shows that a digit comes first, so the year has no sign
  obtain ⟨n, monthDigits⟩ := LayoutItem.readNumber_of_rest?_month month
  obtain ⟨⟨c, more, first, digit⟩, -⟩ := readNumber_eq_ok monthDigits
  obtain ⟨k, yearDigits⟩ := LayoutItem.readNumber_of_rest?_year year first digit
  have same := (eq_dropWhile_of_readNumber yearDigits (digitsEnd_cons.mpr rfl)).trans
    (eq_dropWhile_of_readNumber monthDigits (digitsEnd_cons.mpr rfl)).symm
  exact absurd (List.cons.inj same).1 (by decide)

theorem apart_iso_slash (l m : Layout) : Apart (isoDate ++ l) (slashDate ++ m) := by
  intro cs first second
  rw [rest?_append] at first second
  obtain ⟨_, iso, -⟩ := Option.bind_eq_some_iff.mp first
  obtain ⟨_, slash, -⟩ := Option.bind_eq_some_iff.mp second
  exact not_iso_and_slash iso slash

end Layout

end RecordFilter.Calendar
