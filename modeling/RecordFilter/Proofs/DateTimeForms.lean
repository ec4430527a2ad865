import RecordFilter.Proofs.Display
import RecordFilter.Proofs.InstantLayout

/-!
# The forms of a date-time

A date-time may be written as an instant, along one of the layouts of date-times, or as
a date. No text has two of these forms, so that it does not matter in which order they
are tried.
-/

namespace RecordFilter

open Calendar Results Text

namespace Calendar

/-! ## Layouts -/

namespace Layout

/-- What may stand behind a date with hyphens. -/
def isoTails : List Layout :=
  [[.mark 'T'] ++ fullClock ++ [.fraction], [.gap] ++ fullClock ++ [.fraction],
    [.mark 'T'] ++ clock, [.gap] ++ clock, []]

/-- What may stand behind a date with slashes. -/
def slashTails : List Layout :=
  [[.gap] ++ fullClock, [.gap] ++ clock, []]

/-- A text goes on with a letter or with an hour, and behind the minute it goes on with
the second or ends. -/
theorem pairwise_isoTails : isoTails.Pairwise Apart := by
  have letter (l m : Layout) : Apart (.mark 'T' :: l) (.gap :: .hour :: m) :=
    apart_mark_gap (by decide) (by decide)
  have seconds : Apart [.mark ':', .second, .fraction] [] := apart_nil (by decide)
  -- one bullet for each tail, against the ones behind it
  refine .cons ?_ (.cons ?_ (.cons ?_ (.cons ?_ (.cons ?_ .nil))))
  · simp only [List.forall_mem_cons]
    exact ⟨letter _ _, seconds.append_left ([.mark 'T'] ++ clock), letter _ _,
      apart_nil (by decide), nofun⟩
  · simp only [List.forall_mem_cons]
    exact ⟨(letter _ _).symm, seconds.append_left ([.gap] ++ clock), apart_nil (by decide), nofun⟩
  · simp only [List.forall_mem_cons]
    exact ⟨letter _ _, apart_nil (by decide), nofun⟩
  · simp only [List.forall_mem_cons]
    exact ⟨apart_nil (by decide), nofun⟩
  · exact nofun

theorem pairwise_slashTails : slashTails.Pairwise Apart := by
  have seconds : Apart [.mark ':', .second] [] := apart_nil (by decide)
  refine .cons ?_ (.cons ?_ (.cons ?_ .nil))
  · simp only [List.forall_mem_cons]
    exact ⟨seconds.append_left ([.gap] ++ clock), apart_nil (by decide), nofun⟩
  · simp only [List.forall_mem_cons]
    exact ⟨apart_nil (by decide), nofun⟩
  · exact nofun

/-- The layouts by the date that they begin with. -/
def byDate : List Layout :=
  isoTails.map (isoDate ++ ·) ++ slashTails.map (slashDate ++ ·)

theorem pairwise_byDate : byDate.Pairwise Apart := by
  refine List.pairwise_append.mpr ⟨?_, ?_, ?_⟩
  · exact List.pairwise_map.mpr (pairwise_isoTails.imp (Apart.append_left isoDate))
  · exact List.pairwise_map.mpr (pairwise_slashTails.imp (Apart.append_left slashDate))
  · intro l iso m slash
    obtain ⟨tail, -, rfl⟩ := List.mem_map.mp iso
    obtain ⟨tail', -, rfl⟩ := List.mem_map.mp slash
    exact apart_iso_slash tail tail'

/-- The layouts of date-times, in the order of trial. -/
def ofDateTime : List Layout :=
  dateTimes ++ [lastDateTime]

/-- The layouts of dates, in the order of trial. -/
def ofDate : List Layout :=
  [isoDate, slashDate]

theorem perm_byDate : (ofDateTime ++ ofDate).Perm byDate := by
  decide

theorem pairwise_apart : (ofDateTime ++ ofDate).Pairwise Apart :=
  (perm_byDate.pairwise_iff fun apart => apart.symm).mpr pairwise_byDate

/-! ## Instants -/

variable {cs clock : List Char} {c separator : Char} {i : Instant}

/-- Behind the separator of an instant an hour comes next, by any layout. -/
theorem rest?_tail_ne {l : Layout} (among : separator ∈ ['T', 't', ' '])
    (left : rest? (.hour :: l) cs ≠ some []) :
    rest? (.mark 'T' :: .hour :: l) (separator :: cs) ≠ some [] ∧
      rest? (.gap :: .hour :: l) (separator :: cs) ≠ some [] := by
  refine ⟨?_, ?_⟩
  · intro fits
    obtain ⟨rest, mark, fits⟩ := Option.bind_eq_some_iff.mp fits
    obtain ⟨-, rfl⟩ := List.cons.inj (LayoutItem.rest?_mark_eq_some_iff.mp mark)
    exact left fits
  · rw [rest?_gap_hour]
    have letter {c : Char} (visible : isBlankChar c = false) (other : c.isDigit = false) :
        rest? (.hour :: l) (c :: cs) ≠ some [] := by
      rw [rest?_cons, LayoutItem.rest?_hour_of_other visible other]
      nofun
    simp only [List.mem_cons, List.not_mem_nil, or_false] at among
    obtain rfl | rfl | rfl := among
    · exact letter (by decide) (by decide)
    · exact letter (by decide) (by decide)
    · -- a space is one more blank before the hour
      intro fits
      rw [rest?_cons, ← LayoutItem.rest?_hour_skipBlanks] at fits
      have blank : skipBlanks (' ' :: cs) = skipBlanks cs := rfl
      rw [blank, LayoutItem.rest?_hour_skipBlanks] at fits
      exact left fits

/-- The text of an instant fits no layout: behind the time of day there is an offset,
which none of them has a place for. -/
theorem rest?_ne_of_instant (read : Instant.read? cs = some i) :
    ∀ l ∈ byDate, l.rest? cs ≠ some [] := by
  obtain ⟨-, separator, among, clock, c, zone, date, time⟩ := Instant.exists_of_read? read
  have full : rest? (fullClock ++ [.fraction]) clock ≠ some [] := by
    rw [time]
    nofun
  have short : rest? Layout.clock clock ≠ some [] := by
    intro fits
    have goesOn : rest? (Layout.clock ++ [.mark ':', .second, .fraction]) clock =
        some (c :: zone) := time
    rw [rest?_append, fits] at goesOn
    cases goesOn
  intro l member
  rcases List.mem_append.mp member with iso | slash
  · obtain ⟨tail, known, rfl⟩ := List.mem_map.mp iso
    rw [rest?_append, date]
    simp only [isoTails, List.mem_cons, List.not_mem_nil, or_false] at known
    obtain rfl | rfl | rfl | rfl | rfl := known
    · exact (rest?_tail_ne among full).1
    · exact (rest?_tail_ne among full).2
    · exact (rest?_tail_ne among short).1
    · exact (rest?_tail_ne among short).2
    · nofun
  · obtain ⟨tail, -, rfl⟩ := List.mem_map.mp slash
    intro fits
    rw [rest?_append] at fits
    obtain ⟨_, slash, -⟩ := Option.bind_eq_some_iff.mp fits
    exact not_iso_and_slash date slash

/-! ## Trial -/

/-- By induction on the layouts: the first success is that of the first layout that has
one. -/
theorem toOption_firstSuccess {α : Type} (read : Layout → Except LayoutFault α) (last : Layout)
    (ls : List Layout) : (firstSuccess read last ls).toOption =
      (ls ++ [last]).findSome? fun l => (read l).toOption := by
  induction ls with
  | nil =>
      rw [firstSuccess, List.nil_append, List.findSome?_singleton]
  | cons l ls ih =>
      rw [firstSuccess, List.cons_append, List.findSome?_cons]
      cases read l with
      | ok a => rfl
      | error fault => exact ih

end Layout

/-! ## Forms -/

/-- A way to write a date-time. -/
inductive DateTime.Form
  | instant
  | dateTime (l : Layout)
  | date (l : Layout)
deriving DecidableEq

namespace DateTime.Form

variable {cs : List Char} {form other : Form} {t : DateTime}

/-- The text has the form. -/
def Fits (cs : List Char) : Form → Prop
  | instant => ∃ i, Instant.read? cs = some i
  | dateTime l => ∃ t, l.readDateTime cs = .ok t
  | date l => ∃ d, l.readDate cs = .ok d

/-- The date-time of a text that has the form. -/
def read? (cs : List Char) : Form → Option DateTime
  | instant => (Instant.read? cs).bind (·.universal?)
  | dateTime l => (l.readDateTime cs).toOption
  | date l => (l.readDate cs).toOption.map startOf

/-- All forms, in the order of trial. -/
def all : List Form :=
  .instant :: (Layout.ofDateTime.map dateTime ++ Layout.ofDate.map date)

theorem fits_iff : form.Fits cs ↔ ∃ t, form.read? cs = some t := by
  cases form with
  | instant =>
      constructor
      · rintro ⟨i, read⟩
        obtain ⟨⟨early, late⟩, -⟩ := Instant.exists_of_read? read
        obtain ⟨u, universal⟩ := Instant.exists_universal? early late
        refine ⟨u, ?_⟩
        show (Instant.read? cs).bind _ = _
        rw [read, Option.bind_some, universal]
      · rintro ⟨u, read⟩
        obtain ⟨i, found, -⟩ := Option.bind_eq_some_iff.mp read
        exact ⟨i, found⟩
  | dateTime l => exact exists_congr fun t => toOption_eq_some_iff.symm
  | date l =>
      simp only [Fits, read?, Option.map_eq_some_iff, toOption_eq_some_iff]
      constructor
      · rintro ⟨d, read⟩
        exact ⟨startOf d, d, read, rfl⟩
      · rintro ⟨_, d, read, -⟩
        exact ⟨d, read⟩

/-- No text has both forms. -/
def Apart (form other : Form) : Prop :=
  ∀ cs, form.Fits cs → ¬ other.Fits cs

instance : Std.Symm Apart where
  symm form other apart := by
    intro cs second first
    exact apart cs first second

theorem rest?_of_fits_dateTime {l : Layout} (fits : (dateTime l).Fits cs) :
    l.rest? cs = some [] := by
  obtain ⟨t, read⟩ := fits
  obtain ⟨f, scanned, -⟩ := Layout.readDateTime_eq_ok_iff.mp read
  exact Layout.rest?_of_scan scanned

theorem rest?_of_fits_date {l : Layout} (fits : (date l).Fits cs) : l.rest? cs = some [] := by
  obtain ⟨d, read⟩ := fits
  obtain ⟨f, scanned, -⟩ := Layout.readDate_eq_ok_iff.mp read
  exact Layout.rest?_of_scan scanned

theorem pairwise_all : all.Pairwise Apart := by
  have layouts := List.pairwise_append.mp Layout.pairwise_apart
  have known {l : Layout} (member : l ∈ Layout.ofDateTime ++ Layout.ofDate) : l ∈ Layout.byDate :=
    Layout.perm_byDate.mem_iff.mp member
  refine .cons ?_ (List.pairwise_append.mpr ⟨?_, ?_, ?_⟩)
  · -- an instant has an offset behind it
    rintro form member cs ⟨i, read⟩ fits
    rcases List.mem_append.mp member with member | member
    · obtain ⟨l, layout, rfl⟩ := List.mem_map.mp member
      exact Layout.rest?_ne_of_instant read l (known (List.mem_append_left _ layout))
        (rest?_of_fits_dateTime fits)
    · obtain ⟨l, layout, rfl⟩ := List.mem_map.mp member
      exact Layout.rest?_ne_of_instant read l (known (List.mem_append_right _ layout))
        (rest?_of_fits_date fits)
  · refine List.pairwise_map.mpr (layouts.1.imp ?_)
    intro l m apart cs first second
    exact apart cs (rest?_of_fits_dateTime first) (rest?_of_fits_dateTime second)
  · refine List.pairwise_map.mpr (layouts.2.1.imp ?_)
    intro l m apart cs first second
    exact apart cs (rest?_of_fits_date first) (rest?_of_fits_date second)
  · intro form member other member' cs first second
    obtain ⟨l, layout, rfl⟩ := List.mem_map.mp member
    obtain ⟨m, layout', rfl⟩ := List.mem_map.mp member'
    exact layouts.2.2 l layout m layout' cs (rest?_of_fits_dateTime first)
      (rest?_of_fits_date second)

/-- A text has one form at most. -/
theorem eq_of_fits (member : form ∈ all) (member' : other ∈ all) (fits : form.Fits cs)
    (fits' : other.Fits cs) : form = other := by
  by_contra differ
  exact pairwise_all.forall member member' differ cs fits fits'

end DateTime.Form

/-! ## Any order of trial -/

namespace DateTime

variable {cs : List Char} {t : DateTime}

open Form

theorem toOption_readDate (cs : List Char) :
    (Date.read cs).toOption.map startOf = (Layout.ofDate.map Form.date).findSome? (read? cs) := by
  have first : (Date.read cs).toOption =
      Layout.ofDate.findSome? fun l => (l.readDate cs).toOption :=
    Layout.toOption_firstSuccess (·.readDate cs) .slashDate [.isoDate]
  rw [first, List.map_findSome?, List.findSome?_map]
  rfl

/-- The forms are tried one after the other. -/
theorem toOption_read (cs : List Char) :
    (DateTime.read cs).toOption = all.findSome? (read? cs) := by
  have layouts : (Layout.ofDateTime.map Form.dateTime).findSome? (read? cs) =
      (Layout.firstSuccess (·.readDateTime cs) .lastDateTime Layout.dateTimes).toOption := by
    rw [List.findSome?_map]
    exact (Layout.toOption_firstSuccess (·.readDateTime cs) _ _).symm
  have instant : read? cs .instant = (Instant.read? cs).bind (·.universal?) := rfl
  unfold DateTime.read
  rw [all, List.findSome?_cons, List.findSome?_append, layouts, ← toOption_readDate, instant]
  cases (Instant.read? cs).bind (·.universal?) with
  | some t => rfl
  | none =>
      cases Layout.firstSuccess (·.readDateTime cs) .lastDateTime Layout.dateTimes with
      | ok t => rfl
      | error fault => cases Date.read cs <;> rfl

theorem findSome?_eq_some_iff {order : List Form} (known : ∀ form ∈ order, form ∈ all) :
    order.findSome? (read? cs) = some t ↔ ∃ form ∈ order, form.read? cs = some t := by
  constructor
  · intro found
    exact List.exists_of_findSome?_eq_some found
  · rintro ⟨form, member, read⟩
    cases found : order.findSome? (read? cs) with
    | none =>
        have none := List.findSome?_eq_none_iff.mp found form member
        rw [read] at none
        cases none
    | some t' =>
        obtain ⟨form', member', read'⟩ := List.exists_of_findSome?_eq_some found
        have same := eq_of_fits (known form member) (known form' member') (fits_iff.mpr ⟨t, read⟩)
          (fits_iff.mpr ⟨t', read'⟩)
        rw [← same, read] at read'
        exact read'.symm

/-- What one order of trial finds is found by any other one. -/
theorem toOption_read_of_perm {order : List Form} (same : order.Perm all) :
    (DateTime.read cs).toOption = order.findSome? (read? cs) := by
  have known : ∀ form ∈ order, form ∈ all := fun form => same.mem_iff.mp
  rw [toOption_read]
  refine Option.ext fun t => ?_
  rw [findSome?_eq_some_iff known, findSome?_eq_some_iff fun _ member => member]
  simp only [same.mem_iff]

theorem read_eq_ok_iff : DateTime.read cs = .ok t ↔ ∃ form ∈ all, form.read? cs = some t := by
  rw [← toOption_eq_some_iff, toOption_read, findSome?_eq_some_iff fun _ member => member]

/-- A date is read along one of its layouts, and so it is a form of a date-time. -/
theorem exists_of_readDate {d : Date} (read : Date.read cs = .ok d) :
    ∃ l, Form.date l ∈ all ∧ l.readDate cs = .ok d := by
  have found := Layout.toOption_firstSuccess (·.readDate cs) .slashDate [.isoDate]
  have first : Layout.firstSuccess (·.readDate cs) .slashDate [.isoDate] = .ok d := read
  rw [first] at found
  obtain ⟨l, member, fits⟩ := List.exists_of_findSome?_eq_some found.symm
  have form : Form.date l ∈ all :=
    List.mem_cons_of_mem _ (List.mem_append_right _ (List.mem_map_of_mem member))
  exact ⟨l, form, toOption_eq_some_iff.mp fits⟩

theorem read_of_readDate {d : Date} (read : Date.read cs = .ok d) :
    DateTime.read cs = .ok (startOf d) := by
  obtain ⟨l, form, fits⟩ := exists_of_readDate read
  refine read_eq_ok_iff.mpr ⟨.date l, form, ?_⟩
  show (l.readDate cs).toOption.map startOf = _
  rw [fits]
  rfl

end DateTime

end Calendar

/-! ## Literals -/

namespace Literal

open DateTime (Form)

variable {literal : String} {v : Value}

/-- Nothing is read in a blank literal, by either reader. -/
theorem read_dateTime_iff {t : DateTime} :
    read .dateTime literal = .ok t ↔ DateTime.read (trim literal).toList = .ok t := by
  cases filled : isBlank literal with
  | true =>
      have nothing : (DateTime.read "".toList).toOption = none := by decide
      rw [read_eq_error_of_isBlank filled, trim_eq_empty_iff.mpr filled, ← toOption_eq_some_iff,
        nothing]
      exact iff_of_false nofun nofun
  | false => exact read_dateTime_eq_ok_iff filled

theorem read_date_iff {d : Date} :
    read .date literal = .ok d ↔ Date.read (trim literal).toList = .ok d := by
  cases filled : isBlank literal with
  | true =>
      have nothing : (Date.read "".toList).toOption = none := by decide
      rw [read_eq_error_of_isBlank filled, trim_eq_empty_iff.mpr filled, ← toOption_eq_some_iff,
        nothing]
      exact iff_of_false nofun nofun
  | false => exact read_date_eq_ok_iff filled

theorem toOption_constant_dateTime (literal : String) : (constant .dateTime literal).toOption =
    (DateTime.read (trim literal).toList).toOption.map Value.dateTime := by
  refine Option.ext fun v => ?_
  rw [toOption_eq_some_iff, constant_eq_ok_iff, Option.map_eq_some_iff]
  simp only [toOption_eq_some_iff]
  exact exists_congr fun t => and_congr_left fun _ => read_dateTime_iff

theorem constant_date_eq_ok_iff {d : Date} :
    constant .date literal = .ok (.date d) ↔ Date.read (trim literal).toList = .ok d := by
  rw [constant_eq_ok_iff, ← read_date_iff]
  constructor
  · rintro ⟨d', read, same⟩
    cases same
    exact read
  · intro read
    exact ⟨d, read, rfl⟩

/-- **Forms.** A literal has one form of a date-time at most, so that its constant is
what any order of trial finds first. In particular a literal that is a date is as a
date-time its beginning, and none that is an instant or has the layout of a date-time
is a date. -/
theorem constant_dateTime_forms (literal : String) :
    (∀ form ∈ Form.all, ∀ other ∈ Form.all, form.Fits (trim literal).toList →
      other.Fits (trim literal).toList → form = other) ∧
    (∀ order : List Form, order.Perm Form.all → (constant .dateTime literal).toOption =
      (order.findSome? (Form.read? (trim literal).toList)).map Value.dateTime) ∧
    (∀ d, constant .date literal = .ok (.date d) →
      constant .dateTime literal = .ok (.dateTime (.startOf d))) ∧
    ∀ form ∈ Form.all, (∀ l, form ≠ .date l) → form.Fits (trim literal).toList →
      ∃ e, constant .date literal = .error e := by
  refine ⟨?_, ?_, ?_, ?_⟩
  · intro form member other member' fits fits'
    exact Form.eq_of_fits member member' fits fits'
  · intro order same
    rw [toOption_constant_dateTime, DateTime.toOption_read_of_perm same]
  · intro d date
    have read := DateTime.read_of_readDate (constant_date_eq_ok_iff.mp date)
    exact constant_eq_ok_iff.mpr ⟨_, read_dateTime_iff.mpr read, rfl⟩
  · intro form member noDate fits
    cases date : constant .date literal with
    | error e => exact ⟨e, rfl⟩
    | ok v =>
        obtain ⟨d, read, -⟩ := constant_eq_ok_iff.mp date
        obtain ⟨l, form', read'⟩ := DateTime.exists_of_readDate (read_date_iff.mp read)
        exact absurd (Form.eq_of_fits member form' fits ⟨d, read'⟩) (noDate l)

/-- The last day of a month. -/
def lastOfApril : Date :=
  ⟨2000, 4, 30, by decide, by decide, by decide⟩

/-- A date with slashes is its beginning. A leap second on it, with one digit too few and
one blank too many, is no date, and it is found from the last form on as well. -/
theorem constant_dateTime_forms_april :
    constant .dateTime " 4/30/2000 " = .ok (.dateTime (.startOf lastOfApril)) ∧
    (∃ e, constant .date "2000-4-30  7:05:60.5" = .error e) ∧
    (constant .dateTime "2000-4-30  7:05:60.5").toOption =
      some (.dateTime ⟨lastOfApril, .ofParts 7 5 60 500000000⟩) := by
  obtain ⟨-, -, dates, -⟩ := constant_dateTime_forms " 4/30/2000 "
  obtain ⟨-, orders, -, times⟩ := constant_dateTime_forms "2000-4-30  7:05:60.5"
  refine ⟨?_, ?_, ?_⟩
  · exact dates lastOfApril (constant_date_eq_ok_iff.mpr (by decide +kernel))
  · refine times (.dateTime (Layout.isoDate ++ [.gap] ++ Layout.fullClock ++ [.fraction]))
      (by decide) nofun ⟨⟨lastOfApril, .ofParts 7 5 60 500000000⟩, by decide +kernel⟩
  · have found : Form.all.reverse.findSome?
        (Form.read? (trim "2000-4-30  7:05:60.5").toList) =
          some ⟨lastOfApril, .ofParts 7 5 60 500000000⟩ := by
      decide +kernel
    rw [orders Form.all.reverse Form.all.reverse_perm, found]
    rfl

end Literal

end RecordFilter
