import Mathlib.Data.List.DropRight
import RecordFilter.Proofs.Segments

/-!
# Trimmed texts

Trimming takes a stretch out of a text that neither begins nor ends with a
blank, so to trim it again changes nothing. Texts that are put together from
trimmed ones, with anything in between, are trimmed themselves. The blanks around
a text are around its first and last piece.
-/

namespace RecordFilter.Text

/-! ## Lists of characters -/

/-- What is left of a list after trimming is a stretch of it. -/
theorem trimChars_isInfix (cs : List Char) : trimChars cs <:+: cs := by
  have kept : trimChars cs <+: cs.dropWhile isBlankChar := List.rdropWhile_prefix _ _
  exact kept.isInfix.trans (List.dropWhile_suffix _).isInfix

/-- A list is trimmed when there is nothing to drop at either end. -/
theorem trimChars_eq_self_iff {cs : List Char} :
    trimChars cs = cs ↔ cs.dropWhile isBlankChar = cs ∧ cs.rdropWhile isBlankChar = cs := by
  constructor
  · intro trimmed
    have whole : cs.dropWhile isBlankChar = cs := by
      have kept : trimChars cs <+: cs.dropWhile isBlankChar := List.rdropWhile_prefix _ _
      rw [trimmed] at kept
      exact (List.dropWhile_suffix _).eq_of_length_le kept.length_le
    refine ⟨whole, ?_⟩
    rwa [trimChars, whole] at trimmed
  · rintro ⟨front, back⟩
    rw [trimChars, front]
    exact back

theorem trimChars_trimChars (cs : List Char) : trimChars (trimChars cs) = trimChars cs := by
  refine trimChars_eq_self_iff.mpr ⟨?_, List.rdropWhile_idempotent _ _⟩
  -- what is left begins as the list does without the blanks in front
  have kept : trimChars cs <+: cs.dropWhile isBlankChar := List.rdropWhile_prefix _ _
  cases left : trimChars cs with
  | nil => rfl
  | cons c rest =>
      rw [left] at kept
      obtain ⟨dropped, same⟩ := kept
      have first : isBlankChar c = false := by
        have head := List.head?_dropWhile_not isBlankChar cs
        rw [← same] at head
        simpa using head
      rw [List.dropWhile_cons_of_neg (by simp [first])]

theorem trimChars_eq_nil_iff {cs : List Char} :
    trimChars cs = [] ↔ ∀ c ∈ cs, isBlankChar c = true := by
  constructor
  · intro nothing
    have kept : ∀ c ∈ cs.dropWhile isBlankChar, isBlankChar c = true :=
      List.rdropWhile_eq_nil_iff.mp nothing
    -- the first character behind the blanks in front would be none itself
    refine List.dropWhile_eq_nil_iff.mp ?_
    cases left : cs.dropWhile isBlankChar with
    | nil => rfl
    | cons c rest =>
        have head := List.head?_dropWhile_not isBlankChar cs
        rw [left] at head kept
        have first : isBlankChar c = false := by simpa using head
        rw [kept c List.mem_cons_self] at first
        cases first
  · exact trimChars_eq_nil

/-- Between a trimmed beginning and a trimmed end anything may stand. -/
theorem trimChars_append {front back : List Char} (between : List Char)
    (frontTrimmed : trimChars front = front) (frontSome : front ≠ [])
    (backTrimmed : trimChars back = back) (backSome : back ≠ []) :
    trimChars (front ++ between ++ back) = front ++ between ++ back := by
  refine trimChars_eq_self_iff.mpr ⟨?_, ?_⟩
  · have kept := (trimChars_eq_self_iff.mp frontTrimmed).1
    rw [List.append_assoc, List.dropWhile_append, kept, if_neg (by simpa using frontSome)]
  · have kept := (trimChars_eq_self_iff.mp backTrimmed).2
    refine List.rdropWhile_eq_self_iff.mpr ?_
    intro _
    rw [List.getLast_append_of_ne_nil _ backSome]
    exact List.rdropWhile_eq_self_iff.mp kept backSome

/-- Blanks at the two ends make no difference. -/
theorem trimChars_pad {front back : List Char} (cs : List Char)
    (frontBlank : ∀ c ∈ front, isBlankChar c = true)
    (backBlank : ∀ c ∈ back, isBlankChar c = true) :
    trimChars (front ++ (cs ++ back)) = trimChars cs := by
  have noFront : front.dropWhile isBlankChar = [] := List.dropWhile_eq_nil_iff.mpr frontBlank
  have noBack : back.reverse.dropWhile isBlankChar = [] :=
    List.dropWhile_eq_nil_iff.mpr fun c member => backBlank c (List.mem_reverse.mp member)
  unfold trimChars dropEndWhile
  rw [List.dropWhile_append, noFront, List.isEmpty_nil, if_pos rfl, List.dropWhile_append]
  split
  · -- there is nothing but blanks
    rename_i empty
    have onlyBack : back.dropWhile isBlankChar = [] := List.dropWhile_eq_nil_iff.mpr backBlank
    rw [onlyBack, List.isEmpty_iff.mp empty]
  · rw [List.reverse_append, List.dropWhile_append, noBack, List.isEmpty_nil, if_pos rfl]

/-! ## Texts -/

theorem trim_pad {front back : String} (s : String) (frontBlank : isBlank front = true)
    (backBlank : isBlank back = true) : trim (front ++ s ++ back) = trim s := by
  rw [trim, String.toList_append, String.toList_append, List.append_assoc,
    trimChars_pad _ (List.all_eq_true.mp frontBlank) (List.all_eq_true.mp backBlank), trim]

theorem trim_append {back : String} (s : String) (blank : isBlank back = true) :
    trim (s ++ back) = trim s := by
  have padded : trim ("" ++ s ++ back) = trim s := trim_pad s rfl blank
  rwa [String.empty_append] at padded

theorem trim_prepend {front : String} (s : String) (blank : isBlank front = true) :
    trim (front ++ s) = trim s := by
  have padded : trim (front ++ s ++ "") = trim s := trim_pad s blank rfl
  rwa [String.append_empty] at padded

theorem trim_trim (s : String) : trim (trim s) = trim s := by
  rw [trim, trim, String.toList_ofList, trimChars_trimChars]

theorem trim_eq_empty_iff {s : String} : trim s = "" ↔ isBlank s = true := by
  rw [trim, isBlank, List.all_eq_true, ← trimChars_eq_nil_iff]
  exact String.ofList_eq_empty_iff

theorem isBlank_eq_false_iff {s : String} : isBlank s = false ↔ trim s ≠ "" := by
  rw [ne_eq, trim_eq_empty_iff, Bool.not_eq_true]

theorem isBlank_trim_eq_false {s : String} (h : trim s ≠ "") : isBlank (trim s) = false := by
  rwa [isBlank_eq_false_iff, trim_trim]

theorem mem_of_mem_trim {c : Char} {s : String} (h : c ∈ (trim s).toList) : c ∈ s.toList := by
  rw [trim, String.toList_ofList] at h
  exact (trimChars_isInfix s.toList).subset h

theorem trim_eq_self_iff {s : String} : trim s = s ↔ trimChars s.toList = s.toList := by
  rw [← String.toList_inj, trim, String.toList_ofList]

/-- A text that trimming does not change neither begins nor ends with a blank. -/
theorem not_blank_at_end {s : String} {c : Char} (trimmed : trim s = s)
    (ends : s.toList.head? = some c ∨ s.toList.getLast? = some c) : isBlankChar c = false := by
  obtain ⟨front, back⟩ := trimChars_eq_self_iff.mp (trim_eq_self_iff.mp trimmed)
  rw [Bool.eq_false_iff]
  rcases ends with first | last
  · obtain ⟨rest, same⟩ := List.head?_eq_some_iff.mp first
    rw [same, List.dropWhile_eq_self_iff] at front
    exact front (by simp)
  · obtain ⟨rest, same⟩ := List.getLast?_eq_some_iff.mp last
    rw [same, List.rdropWhile_eq_self_iff] at back
    simpa using back (by simp)

/-- The text is not empty, and there is no blank at either end of it. -/
def IsTrimmed (s : String) : Prop :=
  s ≠ "" ∧ trim s = s

theorem map_trim_of_isTrimmed {texts : List String} (h : ∀ s ∈ texts, IsTrimmed s) :
    texts.map trim = texts :=
  (List.map_congr_left fun s member => (h s member).2).trans (List.map_id texts)

theorem IsTrimmed.isBlank_eq_false {s : String} (h : IsTrimmed s) : isBlank s = false := by
  rw [isBlank_eq_false_iff, h.2]
  exact h.1

theorem IsTrimmed.append {front back : String} (hf : IsTrimmed front) (between : String)
    (hb : IsTrimmed back) : IsTrimmed (front ++ between ++ back) := by
  refine ⟨?_, ?_⟩
  · intro empty
    exact hf.1 (String.append_eq_empty_iff.mp (String.append_eq_empty_iff.mp empty).1).1
  · rw [trim_eq_self_iff, String.toList_append, String.toList_append]
    exact trimChars_append _ (trim_eq_self_iff.mp hf.2) (by simpa using hf.1)
      (trim_eq_self_iff.mp hb.2) (by simpa using hb.1)

/-- Trimmed texts make a trimmed list. -/
theorem isTrimmed_intercalate (separator : String) {texts : List String} (some : texts ≠ [])
    (trimmed : ∀ s ∈ texts, IsTrimmed s) : IsTrimmed (String.intercalate separator texts) := by
  induction texts with
  | nil => exact absurd rfl some
  | cons s rest ih =>
      have first := trimmed s List.mem_cons_self
      cases rest with
      | nil =>
          rw [String.intercalate_singleton]
          exact first
      | cons t more =>
          rw [String.intercalate_cons_cons]
          exact first.append separator (ih (by simp) fun u hu => trimmed u (.tail _ hu))

/-! ## Pieces of a text with blanks around it -/

theorem exists_pad (s : String) :
    ∃ front back, isBlank front = true ∧ isBlank back = true ∧ s = front ++ trim s ++ back := by
  refine ⟨String.ofList (s.toList.takeWhile isBlankChar),
    String.ofList ((s.toList.dropWhile isBlankChar).rtakeWhile isBlankChar), ?_, ?_, ?_⟩
  · rw [isBlank, String.toList_ofList]
    exact List.all_takeWhile
  · rw [isBlank, String.toList_ofList, List.all_eq_true]
    exact fun _ => List.mem_rtakeWhile_imp
  · have inner : trimChars s.toList ++ (s.toList.dropWhile isBlankChar).rtakeWhile isBlankChar =
        s.toList.dropWhile isBlankChar := List.rdropWhile_append_rtakeWhile
    rw [trim, ← String.toList_inj, String.toList_append, String.toList_append,
      String.toList_ofList, String.toList_ofList, String.toList_ofList, List.append_assoc, inner,
      List.takeWhile_append_dropWhile]

theorem not_mem_of_isBlank {separator : Char} {s : String}
    (visible : isBlankChar separator = false) (blank : isBlank s = true) :
    separator ∉ s.toList := by
  intro member
  have other := List.all_eq_true.mp blank separator member
  rw [visible] at other
  cases other

/-- By induction on the length of the text: blanks at the end belong to the last
piece. -/
theorem map_trim_pieces_append {separator : Char} {back : String}
    (visible : isBlankChar separator = false) (blank : isBlank back = true) (s : String) :
    (pieces separator (s ++ back)).map trim = (pieces separator s).map trim := by
  by_cases member : separator ∈ s.toList
  · obtain ⟨first, rest, apart, same⟩ := exists_cut member
    have shorter : rest.length < s.length := by
      rw [same, String.length_append, String.length_append, String.length_ofList,
        List.length_singleton]
      omega
    rw [same, String.append_assoc, pieces_append, pieces_append, List.map_append, List.map_append,
      map_trim_pieces_append visible blank rest]
  · have outside : separator ∉ (s ++ back).toList := by
      rw [String.toList_append, List.mem_append, not_or]
      exact ⟨member, not_mem_of_isBlank visible blank⟩
    rw [pieces_eq_singleton member, pieces_eq_singleton outside, List.map_singleton,
      List.map_singleton, trim_append s blank]
termination_by s.length

/-- Blanks in front belong to the first piece. -/
theorem map_trim_pieces_prepend {separator : Char} {front : String}
    (visible : isBlankChar separator = false) (blank : isBlank front = true) (s : String) :
    (pieces separator (front ++ s)).map trim = (pieces separator s).map trim := by
  have outside {t : String} (apart : separator ∉ t.toList) : separator ∉ (front ++ t).toList := by
    rw [String.toList_append, List.mem_append, not_or]
    exact ⟨not_mem_of_isBlank visible blank, apart⟩
  by_cases member : separator ∈ s.toList
  · obtain ⟨first, rest, apart, rfl⟩ := exists_cut member
    rw [← String.append_assoc, ← String.append_assoc, pieces_append, pieces_append,
      pieces_eq_singleton apart, pieces_eq_singleton (outside apart), List.map_append,
      List.map_append, List.map_singleton, List.map_singleton, trim_prepend _ blank]
  · rw [pieces_eq_singleton member, pieces_eq_singleton (outside member), List.map_singleton,
      List.map_singleton, trim_prepend _ blank]

/-- Once the pieces are trimmed, it does not matter whether the text was. -/
theorem map_trim_pieces_trim {separator : Char} (visible : isBlankChar separator = false)
    (s : String) : (pieces separator (trim s)).map trim = (pieces separator s).map trim := by
  obtain ⟨front, back, frontBlank, backBlank, same⟩ := exists_pad s
  calc (pieces separator (trim s)).map trim
      = (pieces separator (front ++ trim s)).map trim :=
        (map_trim_pieces_prepend visible frontBlank (trim s)).symm
    _ = (pieces separator (front ++ trim s ++ back)).map trim :=
        (map_trim_pieces_append visible backBlank (front ++ trim s)).symm
    _ = (pieces separator s).map trim := by rw [← same]

end RecordFilter.Text
