import RecordFilter.Calendar.Reading
import RecordFilter.Proofs.Digits
import RecordFilter.Proofs.FractionText
import RecordFilter.Proofs.Results

/-!
# Dates and date-times written and read back

What is written along a layout, item by item, is read back along it, if each item
ends where the next one begins. The texts of dates and date-times are written
along the layouts that are tried first, and a date-time without an offset is no
instant, so they are read back as what they are the texts of.
-/

namespace RecordFilter

open Number Results Text

namespace Calendar

variable {cs ds rest : List Char} {n : Nat} {c : Char}

/-! ## Numbers in a text -/

/-- Digits are read as the number that they write, if there are no more of them
than may be read or none comes behind them. -/
theorem readNumber_append {most : Nat} (some : ds ≠ []) (digits : ∀ c ∈ ds, c.isDigit = true)
    (ends : ds.length = most ∨ ds.length ≤ most ∧ DigitsEnd rest) :
    readNumber most (ds ++ rest) = .ok (ofDigits ds, rest) := by
  have found : ((ds ++ rest).takeWhile Char.isDigit).take most = ds := by
    rcases ends with full | ⟨short, ends⟩
    · exact take_takeWhile_isDigit digits full
    · rw [takeWhile_isDigit digits ends, List.take_of_length_le short]
  obtain ⟨c, more, rfl⟩ := List.exists_cons_of_ne_nil some
  rw [List.cons_append] at found ⊢
  rw [readNumber, if_pos (digits c List.mem_cons_self)]
  simp only [found]
  rw [← List.cons_append, List.drop_left]

theorem readNumber_padded_two (small : n < 100) :
    readNumber 2 (padded 2 n ++ rest) = .ok (n, rest) := by
  rw [readNumber_append (padded_ne_nil 2 n) (fun _ => isDigit_of_mem_padded)
    (.inl (length_padded small (by decide))), ofDigits_padded]

theorem readUpTo_padded {greatest : Nat} (least : 1 ≤ n) (most : n ≤ greatest) (small : n < 100) :
    readUpTo greatest (padded 2 n ++ rest) = .ok (n, rest) := by
  unfold readUpTo
  rw [readNumber_padded_two small]
  exact if_pos ⟨least, most⟩

theorem readBelow_padded {limit : Nat} (k : Fin limit) (small : k.val < 100) :
    readBelow limit (padded 2 k ++ rest) = .ok (k, rest) := by
  unfold readBelow
  rw [readNumber_padded_two small]
  exact dif_pos k.isLt

/-! ## Years -/

theorem readableYear_of_inRange {year : Int} (inRange : minYear ≤ year ∧ year ≤ maxYear) :
    readableYear year = .ok year := by
  unfold minYear maxYear at inRange
  exact if_pos (by omega)

/-- After a sign all the digits belong to the year. -/
theorem readNumber_padded_all (width n : Nat) (ends : DigitsEnd rest) :
    readNumber (padded width n ++ rest).length (padded width n ++ rest) = .ok (n, rest) := by
  have short : (padded width n).length ≤ (padded width n ++ rest).length := by
    rw [List.length_append]
    omega
  rw [readNumber_append (padded_ne_nil width n) (fun _ => isDigit_of_mem_padded)
    (.inr ⟨short, ends⟩), ofDigits_padded]

theorem readYear_of_isDigit (digit : c.isDigit = true) :
    readYear (c :: rest) = (readNumber 4 (c :: rest)).map fun (n, rest) => ((n : Int), rest) := by
  unfold readYear
  split
  · rename_i same
    rw [(List.cons.inj same).1] at digit
    exact absurd digit (by decide)
  · rename_i same
    rw [(List.cons.inj same).1] at digit
    exact absurd digit (by decide)
  · cases readNumber 4 (c :: rest) <;> rfl

/-- The year ends where the next character is no digit, as it has to if it is
read after a sign. -/
theorem readYear_yearText {year : Int} (inRange : minYear ≤ year ∧ year ≤ maxYear)
    (ends : DigitsEnd rest) : readYear (Date.yearText year ++ rest) = .ok (year, rest) := by
  have readable := readableYear_of_inRange inRange
  unfold Date.yearText
  split
  · rename_i negative
    have same : -(year.natAbs : Int) = year := by omega
    rw [List.cons_append, readYear, readNumber_padded_all 4 _ ends]
    simp only [same, readable, bind, Except.bind, pure, Except.pure]
  · split
    · have same : (year.natAbs : Int) = year := by omega
      rw [List.cons_append, readYear, readNumber_padded_all 4 _ ends]
      simp only [same, readable, bind, Except.bind, pure, Except.pure]
    · have same : (year.natAbs : Int) = year := by omega
      have four : (padded 4 year.natAbs).length = 4 := length_padded (by omega) (by decide)
      obtain ⟨c, more, first, digit⟩ := exists_padded_eq_cons 4 year.natAbs
      have read : readNumber 4 (padded 4 year.natAbs ++ rest) = .ok (year.natAbs, rest) := by
        rw [readNumber_append (padded_ne_nil 4 _) (fun _ => isDigit_of_mem_padded) (.inl four),
          ofDigits_padded]
      rw [first, List.cons_append] at read ⊢
      rw [readYear_of_isDigit digit, read]
      exact congrArg (fun y => Except.ok (y, rest)) same

/-! ## Dates and times of day -/

theorem daysInMonth_le (year : Int) (month : Nat) : daysInMonth year month ≤ 31 := by
  unfold daysInMonth
  split <;> first | decide | (split <;> decide)

theorem Date.day_le (d : Date) : d.day ≤ 31 :=
  d.day_inRange.2.trans (daysInMonth_le d.year d.month)

theorem Date.ofParts?_parts (d : Date) : ofParts? d.year d.month d.day = some d :=
  dif_pos ⟨d.year_inRange, d.month_inRange, d.day_inRange⟩

namespace TimeOfDay

variable (t : TimeOfDay)

theorem writtenSecond_lt : t.writtenSecond < 61 := by
  have inRange := t.nano_inRange
  unfold writtenSecond
  omega

/-- The second as it is written. -/
def clockSecond : Fin 61 :=
  ⟨t.writtenSecond, t.writtenSecond_lt⟩

/-- The fraction as it is written. -/
def clockNano : Fin 1000000000 :=
  ⟨t.nano % 1000000000, Nat.mod_lt _ (by decide)⟩

/-- The leap second is the one that is written as 60. -/
theorem ofParts_clock : ofParts t.hour t.minute t.clockSecond t.clockNano = t := by
  obtain ⟨hour, minute, second, nano, inRange⟩ := t
  unfold ofParts clockSecond clockNano writtenSecond
  by_cases leap : nano < 1000000000
  · have whole : nano / 1000000000 = 0 := Nat.div_eq_of_lt leap
    simp only [whole, Nat.add_zero, Nat.mod_eq_of_lt leap, second.isLt, dif_pos]
  · obtain ⟨last, bound⟩ := inRange.resolve_left leap
    have one : nano / 1000000000 = 1 := by omega
    have back : nano % 1000000000 + 1000000000 = nano := by omega
    obtain rfl : second = 59 := Fin.ext last
    simp only [one, back]
    rfl

/-- Characters of a time of day up to the whole second, which is 60 in a leap
second. -/
def clockChars : List Char :=
  padded 2 t.hour ++ ':' :: padded 2 t.minute ++ ':' :: padded 2 t.writtenSecond

/-- The fraction comes behind the whole second. -/
theorem chars_eq_append : t.chars = t.clockChars ++ fractionText t.clockNano :=
  rfl

theorem chars_eq : t.chars = padded 2 t.hour ++ (':' :: (padded 2 t.minute ++
    (':' :: (padded 2 t.clockSecond ++ fractionText t.clockNano)))) := by
  simp [chars, clockSecond, clockNano]

end TimeOfDay

/-! ## Items of a layout -/

theorem skipBlanks_cons (other : isBlankChar c = false) (rest : List Char) :
    skipBlanks (c :: rest) = c :: rest := by
  rw [skipBlanks, List.dropWhile_cons, other, if_neg Bool.false_ne_true]

theorem skipBlanks_padded (width n : Nat) (rest : List Char) :
    skipBlanks (padded width n ++ rest) = padded width n ++ rest := by
  obtain ⟨c, more, first, digit⟩ := exists_padded_eq_cons width n
  rw [first, List.cons_append, skipBlanks_cons (isBlankChar_of_isDigit digit)]

theorem skipBlanks_yearText (year : Int) (rest : List Char) :
    skipBlanks (Date.yearText year ++ rest) = Date.yearText year ++ rest := by
  unfold Date.yearText
  split
  · exact skipBlanks_cons (by decide) _
  · split
    · exact skipBlanks_cons (by decide) _
    · exact skipBlanks_padded 4 _ rest

theorem skipBlanks_of_head? (first : ∀ c ∈ rest.head?, isBlankChar c = false) :
    skipBlanks rest = rest := by
  cases rest with
  | nil => rfl
  | cons c rest => exact skipBlanks_cons (first c rfl) rest

namespace LayoutItem

/-- What is written for an item. -/
def write (t : DateTime) : LayoutItem → List Char
  | .year => Date.yearText t.date.year
  | .month => padded 2 t.date.month
  | .day => padded 2 t.date.day
  | .hour => padded 2 t.time.hour
  | .minute => padded 2 t.time.minute
  | .second => padded 2 t.time.clockSecond
  | .fraction => TimeOfDay.fractionText t.time.clockNano
  | .mark c => [c]
  | .gap => [' ']

/-- Adds the number of an item to the fields. -/
def put (t : DateTime) (f : Fields) : LayoutItem → Fields
  | .year => { f with year := t.date.year }
  | .month => { f with month := t.date.month }
  | .day => { f with day := t.date.day }
  | .hour => { f with hour := t.time.hour }
  | .minute => { f with minute := t.time.minute }
  | .second => { f with second := t.time.clockSecond }
  | .fraction => { f with nano := t.time.clockNano }
  | .mark _ | .gap => f

/-- What is written for the item cannot go on with what comes next. Numbers of two
digits are full. -/
def EndsBefore (rest : List Char) : LayoutItem → Prop
  | .year => DigitsEnd rest
  | .fraction => DigitsEnd rest ∧ ∀ more, rest ≠ '.' :: more
  | .gap => ∀ c ∈ rest.head?, isBlankChar c = false
  | .month | .day | .hour | .minute | .second | .mark _ => True

/-- Every item is read back. -/
theorem read_write {item : LayoutItem} (t : DateTime) (f : Fields) (ends : item.EndsBefore rest) :
    item.read f (item.write t ++ rest) = .ok (item.put t f, rest) := by
  have month := t.date.month_inRange
  have day := t.date.day_inRange.1
  have last := t.date.day_le
  unfold read
  cases item with
  | year =>
      simp only [write, skipBlanks_yearText, readYear_yearText t.date.year_inRange ends]
      rfl
  | month =>
      simp only [write, skipBlanks_padded, readUpTo_padded month.1 month.2 (by omega)]
      rfl
  | day =>
      simp only [write, skipBlanks_padded, readUpTo_padded day last (by omega)]
      rfl
  | hour =>
      simp only [write, skipBlanks_padded, readBelow_padded t.time.hour (by omega)]
      rfl
  | minute =>
      simp only [write, skipBlanks_padded, readBelow_padded t.time.minute (by omega)]
      rfl
  | second =>
      simp only [write, skipBlanks_padded, readBelow_padded t.time.clockSecond (by omega)]
      rfl
  | fraction =>
      simp only [write, readFraction_fractionText t.time.clockNano.isLt ends.1 ends.2]
      rfl
  | mark c => exact if_pos rfl
  | gap => exact congrArg (fun rest => Except.ok (f, rest)) (skipBlanks_of_head? ends)

end LayoutItem

/-! ## Layouts -/

namespace Layout

/-- What is written along a layout. -/
def write (t : DateTime) (l : Layout) : List Char :=
  l.flatMap (LayoutItem.write t)

/-- The fields that a layout fills. -/
def put (t : DateTime) (f : Fields) (l : Layout) : Fields :=
  l.foldl (LayoutItem.put t) f

/-- What is written for each item ends where the next one begins. -/
def Separated (t : DateTime) : Layout → Prop
  | [] => True
  | item :: items => item.EndsBefore (write t items) ∧ Separated t items

variable {t : DateTime} {l : Layout}

theorem write_cons (t : DateTime) (item : LayoutItem) (items : Layout) :
    write t (item :: items) = item.write t ++ write t items :=
  rfl

/-- By induction on the items: what is written along a layout is read back. -/
theorem scan_write (separated : l.Separated t) (f : Fields) :
    l.scan f (l.write t) = .ok (l.put t f) := by
  induction l generalizing f with
  | nil => rfl
  | cons item items ih =>
      rw [scan, write_cons, LayoutItem.read_write t f separated.1]
      exact ih separated.2 (item.put t f)

theorem readDate_eq_ok_iff {d : Date} :
    l.readDate cs = .ok d ↔ ∃ f, l.scan {} cs = .ok f ∧ f.date? = some d := by
  refine bind_eq_ok_iff.trans (exists_congr fun f => and_congr_right fun _ => ?_)
  cases f.date? with
  | none => exact iff_of_false nofun nofun
  | some d' => exact ok_eq_ok_iff

theorem readDateTime_eq_ok_iff {t : DateTime} :
    l.readDateTime cs = .ok t ↔ ∃ f, l.scan {} cs = .ok f ∧ f.dateTime? = some t := by
  refine bind_eq_ok_iff.trans (exists_congr fun f => and_congr_right fun _ => ?_)
  cases f.dateTime? with
  | none => exact iff_of_false nofun nofun
  | some t' => exact ok_eq_ok_iff

theorem readDate_chars (d : Date) : isoDate.readDate d.chars = .ok d := by
  have written : isoDate.write (.startOf d) = d.chars := by
    simp [write, isoDate, LayoutItem.write, DateTime.startOf, Date.chars]
  have separated : isoDate.Separated (.startOf d) :=
    ⟨digitsEnd_cons.mpr rfl, trivial, trivial, trivial, trivial, trivial⟩
  rw [← written]
  exact readDate_eq_ok_iff.mpr ⟨_, scan_write separated {}, d.ofParts?_parts⟩

/-- The layout in which date-times are written. -/
def isoDateTime : Layout :=
  isoDate ++ [.mark 'T'] ++ fullClock ++ [.fraction]

theorem readDateTime_chars (t : DateTime) : isoDateTime.readDateTime t.chars = .ok t := by
  have written : isoDateTime.write t = t.chars := by
    simp [write, isoDateTime, isoDate, fullClock, LayoutItem.write, DateTime.chars, Date.chars,
      TimeOfDay.chars_eq]
  have separated : isoDateTime.Separated t :=
    ⟨digitsEnd_cons.mpr rfl, trivial, trivial, trivial, trivial, trivial, trivial, trivial, trivial,
      trivial, trivial, ⟨digitsEnd_nil, nofun⟩, trivial⟩
  have filled : (isoDateTime.put t {}).dateTime? = some t := by
    show (Date.ofParts? t.date.year t.date.month t.date.day).map (fun d => DateTime.mk d
      (.ofParts t.time.hour t.time.minute t.time.clockSecond t.time.clockNano)) = some t
    rw [Date.ofParts?_parts, TimeOfDay.ofParts_clock]
    rfl
  rw [← written]
  exact readDateTime_eq_ok_iff.mpr ⟨_, scan_write separated {}, filled⟩

end Layout

/-! ## Instants -/

namespace Instant

variable {fraction : List Char}

theorem takeDigits_padded {width : Nat} (small : n < 10 ^ width) (some : 0 < width) :
    takeDigits width (padded width n ++ rest) = .some (n, rest) := by
  have full := length_padded small some
  have taken : (padded width n ++ rest).take width = padded width n := by
    rw [List.take_append_of_le_length (by omega), List.take_of_length_le (by omega)]
  have left : (padded width n ++ rest).drop width = rest := by
    rw [List.drop_append_of_le_length (by omega), List.drop_of_length_le (by omega),
      List.nil_append]
  have digits : (padded width n).all Char.isDigit = true :=
    List.all_eq_true.mpr fun _ => isDigit_of_mem_padded
  unfold takeDigits
  rw [taken, left, ofDigits_padded, if_pos ⟨full, digits⟩]

theorem takeDigits_of_other {width : Nat} (other : c.isDigit = false) (some : 0 < width) :
    takeDigits width (c :: rest) = none := by
  obtain ⟨k, rfl⟩ := Nat.exists_eq_succ_of_ne_zero (Nat.ne_of_gt some)
  unfold takeDigits
  rw [List.take_succ_cons, List.all_cons, other, if_neg (by simp)]

theorem takeBelow_padded {limit : Nat} (k : Fin limit) (small : k.val < 100) :
    takeBelow limit (padded 2 k ++ rest) = some (k, rest) := by
  unfold takeBelow
  rw [takeDigits_padded small (by decide)]
  exact dif_pos k.isLt

theorem takeOneOf_cons {allowed : List Char} (among : allowed.contains c = true) :
    takeOneOf allowed (c :: rest) = some rest :=
  if_pos among

/-- A date whose year has no sign is taken from a text that begins with it. -/
theorem takeDate_chars (d : Date) (early : 0 ≤ d.year) (late : d.year ≤ 9999) :
    takeDate (d.chars ++ rest) = some (d, rest) := by
  have year : (d.year.natAbs : Int) = d.year := by omega
  have noSign : Date.yearText d.year = padded 4 d.year.natAbs := by
    rw [Date.yearText, if_neg (by omega), if_neg (by omega)]
  have month := d.month_inRange
  have day := d.day_le
  unfold takeDate
  simp only [Date.chars, noSign, List.append_assoc, List.cons_append, Option.bind_eq_bind]
  rw [takeDigits_padded (by omega) (by decide), Option.bind_some, takeOneOf_cons rfl,
    Option.bind_some, takeDigits_padded (by omega) (by decide), Option.bind_some,
    takeOneOf_cons rfl, Option.bind_some, takeDigits_padded (by omega) (by decide),
    Option.bind_some, year, Date.ofParts?_parts]
  rfl

/-- No date is taken from a text that begins with a signed year. -/
theorem takeDate_of_signed (d : Date) (signed : d.year < 0 ∨ 9999 < d.year) :
    takeDate (d.chars ++ rest) = none := by
  obtain ⟨sign, digits, other, text⟩ : ∃ sign digits, sign.isDigit = false ∧
      Date.yearText d.year = sign :: digits := by
    unfold Date.yearText
    split
    · exact ⟨'-', _, rfl, rfl⟩
    · exact ⟨'+', _, rfl, if_pos (by omega)⟩
  unfold takeDate
  rw [Date.chars, text, List.cons_append, List.cons_append, List.cons_append,
    takeDigits_of_other other (by decide)]
  rfl

theorem takeTime_of_writes (t : TimeOfDay) (written : WritesFraction fraction (t.nano % 1000000000))
    (ends : DigitsEnd rest) (noPoint : ∀ more, rest ≠ '.' :: more) :
    takeTime (t.clockChars ++ (fraction ++ rest)) = some (t, rest) := by
  have nano := readFraction_of_writes written t.clockNano.isLt ends noPoint
  have second : takeBelow 61 (padded 2 t.clockSecond ++ (fraction ++ rest)) =
      some (t.clockSecond, fraction ++ rest) := takeBelow_padded t.clockSecond (by omega)
  unfold takeTime
  simp only [TimeOfDay.clockChars, List.append_assoc, List.cons_append, Option.bind_eq_bind]
  rw [takeBelow_padded t.hour (by omega), Option.bind_some, takeOneOf_cons rfl, Option.bind_some,
    takeBelow_padded t.minute (by omega), Option.bind_some, takeOneOf_cons rfl, Option.bind_some]
  show (takeBelow 61 (padded 2 t.clockSecond ++ (fraction ++ rest))).bind _ = _
  rw [second, Option.bind_some, nano, Except.toOption, Option.bind_some]
  show some (TimeOfDay.ofParts t.hour t.minute t.clockSecond t.clockNano, rest) = _
  rw [TimeOfDay.ofParts_clock]

theorem takeTime_chars (t : TimeOfDay) (ends : DigitsEnd rest)
    (noPoint : ∀ more, rest ≠ '.' :: more) : takeTime (t.chars ++ rest) = some (t, rest) := by
  have written := writesFraction_fractionText t.clockNano.isLt
  rw [TimeOfDay.chars_eq_append, List.append_assoc]
  exact takeTime_of_writes t written ends noPoint

/-- The text of a date-time names no offset, so it is no instant. -/
theorem read?_chars (t : DateTime) : read? t.chars = none := by
  unfold read?
  rw [DateTime.chars]
  by_cases signed : t.date.year < 0 ∨ 9999 < t.date.year
  · rw [takeDate_of_signed t.date signed]
    rfl
  · rw [not_or] at signed
    have taken := takeTime_chars t.time digitsEnd_nil nofun
    rw [List.append_nil] at taken
    simp only [Option.bind_eq_bind]
    rw [takeDate_chars t.date (by omega) (by omega), Option.bind_some, takeOneOf_cons rfl,
      Option.bind_some, taken, Option.bind_some]
    rfl

end Instant

/-! ## Reading -/

theorem Date.read_chars (d : Date) : read d.chars = .ok d := by
  unfold read Layout.firstSuccess
  rw [Layout.readDate_chars]

theorem Date.read_text (d : Date) : read d.text.toList = .ok d := by
  rw [text, String.toList_ofList, read_chars]

theorem DateTime.read_chars (t : DateTime) : read t.chars = .ok t := by
  have first : Layout.dateTimes = Layout.isoDateTime :: Layout.dateTimes.tail := rfl
  have found : Layout.firstSuccess (·.readDateTime t.chars) .lastDateTime Layout.dateTimes =
      .ok t := by
    rw [first, Layout.firstSuccess, Layout.readDateTime_chars]
  unfold read
  rw [Instant.read?_chars, Option.bind_none, found]

theorem DateTime.read_text (t : DateTime) : read t.text.toList = .ok t := by
  rw [text, String.toList_ofList, read_chars]

end Calendar

end RecordFilter
