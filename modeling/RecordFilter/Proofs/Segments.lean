import Mathlib.Data.List.TakeWhile
import RecordFilter.Clause

/-!
# Pieces and segments of a text

Cutting a text at a separator distributes over joining texts with it. Of the
pieces of a filter only those that are not blank count, so a blank filter has
no segments.
-/

namespace RecordFilter

namespace Text

/-! ## Blanks -/

theorem trimChars_eq_nil {cs : List Char} (h : ∀ c ∈ cs, isBlankChar c = true) :
    trimChars cs = [] := by
  have front : cs.dropWhile isBlankChar = [] := List.dropWhile_eq_nil_iff.mpr h
  rw [trimChars, front]
  rfl

theorem trim_eq_empty {s : String} (h : isBlank s = true) : trim s = "" := by
  rw [trim, trimChars_eq_nil (List.all_eq_true.mp h)]

/-! ## Pieces -/

theorem pieces_append (separator : Char) (s t : String) :
    pieces separator (s ++ String.ofList [separator] ++ t) =
      pieces separator s ++ pieces separator t := by
  unfold pieces
  rw [String.toList_append, String.toList_append, String.toList_ofList, List.append_assoc,
    List.singleton_append, List.splitOn_append_cons_self, List.map_append]

theorem pieces_ne_nil (separator : Char) (s : String) : pieces separator s ≠ [] := by
  simp [pieces]

/-- There is one piece more than there are separators. -/
theorem length_pieces (separator : Char) (s : String) :
    (pieces separator s).length = s.toList.count separator + 1 := by
  rw [pieces, List.length_map]
  induction s.toList with
  | nil => rfl
  | cons c rest ih =>
      rw [List.splitOn_cons_eq_if_modifyHead, List.count_cons]
      split
      · rw [List.length_cons, ih]
      · rw [List.length_modifyHead, ih, Nat.add_zero]

/-- A text in which the separator does not occur is in one piece. -/
theorem pieces_eq_singleton {separator : Char} {s : String} (h : separator ∉ s.toList) :
    pieces separator s = [s] := by
  rw [pieces, List.splitOn_eq_singleton h, List.map_singleton, String.ofList_toList]

/-- Cutting undoes joining, if the separator does not occur in what is joined. -/
theorem pieces_intercalate {separator : Char} {texts : List String} (some : texts ≠ [])
    (h : ∀ s ∈ texts, separator ∉ s.toList) :
    pieces separator (String.intercalate (String.ofList [separator]) texts) = texts := by
  have apart : ∀ cs ∈ texts.map String.toList, separator ∉ cs := List.forall_mem_map.mpr h
  rw [pieces, String.toList_intercalate, String.toList_ofList,
    List.splitOn_intercalate separator apart (by simpa using some), List.map_map]
  exact List.map_id'' (fun s => String.ofList_toList) texts

/-- Joining undoes cutting. -/
theorem intercalate_pieces (separator : Char) (s : String) :
    String.intercalate (String.ofList [separator]) (pieces separator s) = s := by
  rw [← String.toList_inj, String.toList_intercalate, pieces, List.map_map, String.toList_ofList]
  have same : (String.toList ∘ String.ofList) = id := funext fun cs => String.toList_ofList
  rw [same, List.map_id, List.intercalate_splitOn]

private theorem not_mem_of_mem_splitOn {separator : Char} {cs : List Char} :
    ∀ piece ∈ cs.splitOn separator, separator ∉ piece := by
  induction cs with
  | nil => simp
  | cons c rest ih =>
      intro piece member
      rw [List.splitOn_cons_eq_if_modifyHead] at member
      split at member
      · rcases List.mem_cons.mp member with rfl | member
        · exact List.not_mem_nil
        · exact ih piece member
      · -- the character goes to the front of the first piece
        rename_i other
        obtain ⟨first, more, pieces⟩ := List.exists_cons_of_ne_nil (List.splitOn_ne_nil separator rest)
        rw [pieces] at ih
        rw [pieces, List.modifyHead_cons] at member
        rcases List.mem_cons.mp member with rfl | member
        · rw [List.mem_cons, not_or]
          refine ⟨?_, ih first List.mem_cons_self⟩
          rintro rfl
          exact other (beq_self_eq_true _)
        · exact ih piece (List.mem_cons_of_mem _ member)

theorem not_mem_of_mem_pieces {separator : Char} {s piece : String}
    (h : piece ∈ pieces separator s) : separator ∉ piece.toList := by
  obtain ⟨cs, member, rfl⟩ := List.mem_map.mp h
  rw [String.toList_ofList]
  exact not_mem_of_mem_splitOn cs member

/-- The characters of parts that are joined are those of the parts, and those of the
separator if it stands between two of them. -/
theorem mem_intercalate_iff {c : Char} {separator : List Char} {parts : List (List Char)} :
    c ∈ separator.intercalate parts ↔
      (∃ part ∈ parts, c ∈ part) ∨ (2 ≤ parts.length ∧ c ∈ separator) := by
  induction parts with
  | nil => simp
  | cons part rest ih =>
      cases rest with
      | nil => simp
      | cons next more =>
          rw [List.intercalate_cons_cons, List.mem_append, List.mem_append, ih]
          simp only [List.mem_cons, List.length_cons]
          grind

/-! ## The first separator -/

private theorem cutChars_of_not_mem {separator : Char} {cs : List Char} (h : separator ∉ cs) :
    cutChars separator cs = (cs, none) := by
  induction cs with
  | nil => rfl
  | cons c rest ih =>
      rw [List.mem_cons, not_or] at h
      rw [cutChars, if_neg (Ne.symm h.1), ih h.2]

private theorem cutChars_append {separator : Char} {front : List Char} (back : List Char)
    (h : separator ∉ front) :
    cutChars separator (front ++ separator :: back) = (front, some back) := by
  induction front with
  | nil => rw [List.nil_append, cutChars, if_pos rfl]
  | cons c rest ih =>
      rw [List.mem_cons, not_or] at h
      rw [List.cons_append, cutChars, if_neg (Ne.symm h.1), ih h.2]

theorem cut_of_not_mem {separator : Char} {s : String} (h : separator ∉ s.toList) :
    cut separator s = (s, none) := by
  unfold cut
  rw [cutChars_of_not_mem h]
  simp

theorem cut_append {separator : Char} {front : String} (back : String)
    (h : separator ∉ front.toList) :
    cut separator (front ++ String.ofList [separator] ++ back) = (front, some back) := by
  unfold cut
  rw [String.toList_append, String.toList_append, String.toList_ofList, List.append_assoc,
    List.singleton_append, cutChars_append _ h]
  simp

theorem exists_cut {separator : Char} {s : String} (h : separator ∈ s.toList) :
    ∃ front back, separator ∉ front.toList ∧
      s = front ++ String.ofList [separator] ++ back := by
  obtain ⟨front, back, same, apart⟩ := List.eq_append_cons_of_mem h
  refine ⟨String.ofList front, String.ofList back, by rwa [String.toList_ofList], ?_⟩
  rw [← String.toList_inj, same]
  simp

end Text

namespace Clause

open Text

/-- The semicolon is no blank, so blanks alone make one piece, which is left
out. -/
theorem segments_eq_nil {filter : String} (h : isBlank filter = true) : segments filter = [] := by
  have absent : ';' ∉ filter.toList := by
    intro member
    have blank := List.all_eq_true.mp h ';' member
    revert blank
    decide
  rw [segments, pieces_eq_singleton absent, List.map_singleton, trim_eq_empty h]
  rfl

end Clause

end RecordFilter
