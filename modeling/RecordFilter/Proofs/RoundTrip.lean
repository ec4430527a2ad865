import RecordFilter.Proofs.Grammar
import RecordFilter.Proofs.Outcome

/-!
# Clauses written and read back

Which clauses are read back from the form in which they are written: those
whose parts have no separators in them and no blanks around them. All clauses
that are read are of this kind, so a filter that is read can be written again,
clause by clause, without a change to anything that is made of it.
-/

namespace RecordFilter

open Text Results

variable {T : Type}

/-- The error as it would be with another text of the whole filter. -/
def FilterError.withFilter (text : String) : FilterError → FilterError
  | .unexpected _ fault => .unexpected text fault
  | e => e

theorem FilterError.withFilter_inFilter {e : FilterError} (before after : String)
    (h : e.isFromFilter = true ∨ ∃ fault, e = .schema fault) :
    (e.inFilter before).withFilter after = e.inFilter after := by
  rcases h with ours | ⟨fault, rfl⟩
  · cases e <;> first | rfl | cases ours
  · rfl

/-! ## Tokens -/

namespace Operator

theorem lower_trim_token (operator : Operator) : lower (trim operator.token) = operator.token := by
  cases operator <;> decide +kernel

theorem isTrimmed_token (operator : Operator) : IsTrimmed operator.token := by
  refine ⟨operator.token_ne_empty, ?_⟩
  cases operator <;> decide +kernel

theorem bar_not_mem_token (operator : Operator) : '|' ∉ operator.token.toList := by
  cases operator <;> decide

theorem semicolon_not_mem_token (operator : Operator) : ';' ∉ operator.token.toList := by
  cases operator <;> decide

end Operator

namespace Clause

/-! ## The parts of a segment -/

section Parts

variable {segment property token : String} {pieces : List String}

theorem Written.bar_not_mem (h : Written segment property token pieces) :
    '|' ∉ property.toList := by
  cases h with
  | bare _ outside _ => exact outside
  | listed _ outside _ _ _ => exact outside

theorem Written.comma_not_mem (h : Written segment property token pieces) :
    ∀ piece ∈ pieces, ',' ∉ piece.toList := by
  cases h with
  | bare _ _ _ => simp
  | listed _ _ _ _ apart => exact apart

/-- The characters of the property and of the values are those of the segment. -/
theorem Written.mem_segment {c : Char} (h : Written segment property token pieces)
    (member : c ∈ property.toList ∨ ∃ piece ∈ pieces, c ∈ piece.toList) :
    c ∈ segment.toList := by
  cases h with
  | bare same _ _ =>
      rw [same]
      simp_all
  | listed same _ _ _ _ =>
      rw [same, String.toList_append, List.mem_append, String.toList_intercalate,
        mem_intercalate_iff]
      rcases member with front | ⟨piece, among, inside⟩
      · exact .inl (by simp [front])
      · exact .inr (.inl ⟨piece.toList, List.mem_map_of_mem among, inside⟩)

theorem mem_valuesOf {v : String} (h : v ∈ valuesOf pieces) :
    ∃ piece ∈ pieces, trim piece = v ∧ v ≠ "" := by
  obtain ⟨piece, member, rfl⟩ := List.mem_map.mp h
  obtain ⟨member, valued⟩ := List.mem_filter.mp member
  exact ⟨piece, member, rfl, isBlank_eq_false_iff.mp (by simpa using valued)⟩

end Parts

/-! ## Plain clauses -/

/-- There are no blanks around the parts of the clause, no bar in its property
and no comma in a value, and no value is empty. -/
structure Plain (c : Clause) : Prop where
  property_trim : trim c.property = c.property
  property_bar : '|' ∉ c.property.toList
  value_some : ∀ v ∈ c.values, v ≠ ""
  value_trim : ∀ v ∈ c.values, trim v = v
  value_comma : ∀ v ∈ c.values, ',' ∉ v.toList

variable {segment : String} {c : Clause}

/-- Where the parts of a clause come from when it is read. -/
theorem exists_written_of_parse (parsed : parse segment = .ok c) :
    ∃ property token pieces, Written segment property token pieces ∧
      c.property = trim property ∧
      ∀ v ∈ c.values, ∃ piece ∈ pieces, trim piece = v ∧ v ≠ "" := by
  obtain ⟨property, token, pieces, grammatical, named, values⟩ := parse_eq_ok_iff.mp parsed
  refine ⟨property, token, pieces, grammatical.written, named, ?_⟩
  intro v member
  rw [values] at member
  split at member
  · exact mem_valuesOf member
  · cases member

theorem plain_of_parse (parsed : parse segment = .ok c) : c.Plain := by
  obtain ⟨property, token, pieces, written, named, values⟩ := exists_written_of_parse parsed
  refine ⟨?_, ?_, ?_, ?_, ?_⟩
  · rw [named, trim_trim]
  · rw [named]
    exact fun member => written.bar_not_mem (mem_of_mem_trim member)
  · intro v member
    obtain ⟨piece, -, -, some⟩ := values v member
    exact some
  · intro v member
    obtain ⟨piece, -, rfl, -⟩ := values v member
    exact trim_trim piece
  · intro v member
    obtain ⟨piece, among, rfl, -⟩ := values v member
    exact fun comma => written.comma_not_mem piece among (mem_of_mem_trim comma)

theorem Plain.isTrimmed_property (h : c.Plain) : IsTrimmed c.property := by
  refine ⟨?_, h.property_trim⟩
  rw [← h.property_trim]
  exact isBlank_eq_false_iff.mp c.property_notBlank

theorem Plain.isTrimmed_value (h : c.Plain) : ∀ v ∈ c.values, IsTrimmed v :=
  fun v member => ⟨h.value_some v member, h.value_trim v member⟩

theorem Plain.valuesOf_values (h : c.Plain) : valuesOf c.values = c.values := by
  have kept : c.values.filter (fun v => !isBlank v) = c.values := by
    refine List.filter_eq_self.mpr ?_
    intro v member
    rw [(h.isTrimmed_value v member).isBlank_eq_false]
    rfl
  rw [valuesOf, kept]
  exact map_trim_of_isTrimmed h.isTrimmed_value

/-! ## One clause -/

theorem render_of_none (none : c.values = []) : c.render = c.property ++ "|" ++ c.operator.token := by
  unfold render
  rw [if_pos (List.isEmpty_iff.mpr none)]
  rfl

theorem render_of_some (some : c.values ≠ []) : c.render =
    c.property ++ "|" ++ c.operator.token ++ "|" ++ String.intercalate "," c.values := by
  unfold render
  rw [if_neg (mt List.isEmpty_iff.mp some)]
  rfl

theorem Plain.written (h : c.Plain) :
    Written c.render c.property c.operator.token c.values := by
  by_cases none : c.values = []
  · have bare : Written c.render c.property c.operator.token [] :=
      .bare (render_of_none none) h.property_bar c.operator.bar_not_mem_token
    rwa [← none] at bare
  · exact .listed (render_of_some none) h.property_bar c.operator.bar_not_mem_token none
      h.value_comma

theorem values_ne_nil_iff : c.values ≠ [] ↔ c.operator.takesValues = true := by
  rw [ne_eq, ← List.isEmpty_iff, c.values_isEmpty]
  simp

theorem Plain.grammatical (h : c.Plain) :
    Grammatical c.render c.property c.operator.token c.values c.operator where
  written := h.written
  named := isBlank_eq_false_iff.mp c.property_notBlank
  token_eq := c.operator.lower_trim_token.symm
  valued takes := by
    rw [← valuesOf_ne_nil_iff, h.valuesOf_values]
    exact values_ne_nil_iff.mpr takes

/-- A clause is read back exactly if it is plain. -/
theorem parse_render_iff : parse c.render = .ok c ↔ c.Plain := by
  constructor
  · exact plain_of_parse
  · intro plain
    refine parse_eq_ok_iff.mpr ⟨_, _, _, plain.grammatical, plain.property_trim.symm, ?_⟩
    rw [plain.valuesOf_values]
    split
    · rfl
    · rename_i takes
      exact not_not.mp (mt values_ne_nil_iff.mp takes)

/-! ## All clauses of a filter -/

theorem Plain.isTrimmed_render (h : c.Plain) : IsTrimmed c.render := by
  have head := h.isTrimmed_property.append "|" c.operator.isTrimmed_token
  by_cases none : c.values = []
  · rw [render_of_none none]
    exact head
  · rw [render_of_some none]
    exact head.append "|" (isTrimmed_intercalate "," none h.isTrimmed_value)

/-- A clause brings no semicolon with it that its segment did not have. -/
theorem semicolon_not_mem_render (parsed : parse segment = .ok c) (h : ';' ∉ segment.toList) :
    ';' ∉ c.render.toList := by
  obtain ⟨property, token, pieces, written, named, values⟩ := exists_written_of_parse parsed
  have outside : ';' ∉ c.property.toList := by
    rw [named]
    exact fun member => h (written.mem_segment (.inl (mem_of_mem_trim member)))
  have inside : ∀ v ∈ c.values, ';' ∉ v.toList := by
    intro v among member
    obtain ⟨piece, listed, rfl, -⟩ := values v among
    exact h (written.mem_segment (.inr ⟨piece, listed, mem_of_mem_trim member⟩))
  have token := c.operator.semicolon_not_mem_token
  by_cases none : c.values = []
  · rw [render_of_none none]
    simp [outside, token]
  · rw [render_of_some none, String.toList_append, List.mem_append, String.toList_intercalate,
      mem_intercalate_iff]
    simp only [String.toList_append, List.mem_append, outside, token]
    simpa using inside

theorem semicolon_not_mem_of_mem_segments {filter : String} (h : segment ∈ segments filter) :
    ';' ∉ segment.toList := by
  obtain ⟨member, -⟩ := List.mem_filter.mp h
  obtain ⟨piece, cut, rfl⟩ := List.mem_map.mp member
  exact fun inside => not_mem_of_mem_pieces cut (mem_of_mem_trim inside)

/-- Texts that can stand as segments are the segments of the filter that they
make. -/
theorem segments_intercalate {texts : List String} (trimmed : ∀ s ∈ texts, IsTrimmed s)
    (apart : ∀ s ∈ texts, ';' ∉ s.toList) :
    segments (String.intercalate ";" texts) = texts := by
  by_cases none : texts = []
  · subst none
    decide +kernel
  · have semicolon : (";" : String) = String.ofList [';'] := rfl
    rw [segments, semicolon, pieces_intercalate none apart, map_trim_of_isTrimmed trimmed]
    refine List.filter_eq_self.mpr ?_
    intro s member
    exact decide_eq_true (trimmed s member).1

/-- The filter that is written with these clauses. -/
def renderAll (cs : List Clause) : String :=
  String.intercalate ";" (cs.map render)

end Clause

namespace Policy

variable {policy : Policy} {filter : String} {cs : List Clause}

/-- What is read from a filter is read from its clauses as they are written. -/
theorem clauses_renderAll (read : policy.clauses filter = .ok cs) :
    policy.clauses (Clause.renderAll cs) = .ok cs := by
  obtain ⟨room, each⟩ := clauses_eq_ok_iff.mp read
  -- every clause has a segment that it was read from
  have source : ∀ c ∈ cs, ∃ segment ∈ Clause.segments filter, policy.Reads segment c :=
    exists_of_forall₂ each.flip
  have segments : Clause.segments (Clause.renderAll cs) = cs.map Clause.render := by
    refine Clause.segments_intercalate (List.forall_mem_map.mpr ?_) (List.forall_mem_map.mpr ?_)
    · intro c member
      obtain ⟨segment, -, parsed, -⟩ := source c member
      exact (Clause.plain_of_parse parsed).isTrimmed_render
    · intro c member
      obtain ⟨segment, among, parsed, -⟩ := source c member
      exact Clause.semicolon_not_mem_render parsed
        (Clause.semicolon_not_mem_of_mem_segments among)
  refine clauses_eq_ok_iff.mpr ⟨?_, ?_⟩
  · rwa [segments, List.length_map, ← each.length_eq]
  · rw [segments, List.forall₂_map_left_iff, List.forall₂_same]
    intro c member
    obtain ⟨segment, -, parsed, allowed⟩ := source c member
    exact ⟨Clause.parse_render_iff.mpr (Clause.plain_of_parse parsed), allowed⟩

/-- Once the clauses are read, the text of the filter matters to the wording of
an error only. -/
theorem parse_of_same_clauses (schema : Schema T) {before after : String}
    (read : policy.clauses before = .ok cs) (reread : policy.clauses after = .ok cs) :
    policy.parse schema after = (policy.parse schema before).mapError (.withFilter after) := by
  have stages : ∀ text, policy.clauses text = .ok cs → policy.parse schema text =
      ((Predicate.always : Predicate schema).andClauses cs).mapError (.inFilter text) := by
    intro text h
    rw [parse_eq_stages, h]
    rfl
  rw [stages before read, stages after reread]
  cases made : (Predicate.always : Predicate schema).andClauses cs with
  | ok p => rfl
  | error e =>
      refine congrArg Except.error (FilterError.withFilter_inFilter before after ?_).symm
      -- the error is that of a clause that cannot be compiled
      have failed := map_eq_error_iff (f := Predicate.condition).mpr made
      rw [Predicate.map_condition_andClauses, map_eq_error_iff, mapM_eq_error_iff] at failed
      obtain ⟨front, c, rest, -, -, uncompiled⟩ := failed
      rcases Clause.conditionIn_eq_error uncompiled with ours | ⟨theirs, -⟩
      · exact .inl ours
      · exact .inr ⟨_, theirs⟩

end Policy

/-- **The round trip.** A clause is read back from the form in which it is
written exactly if it is plain, and every clause that is read from a segment is
plain. A filter that is read can be replaced by its clauses as they are written:
they are read as the same clauses, and make the same predicate or the same error
with every schema. -/
theorem Clause.render_roundTrip :
    (∀ c : Clause, parse c.render = .ok c ↔ c.Plain) ∧
    (∀ segment c, parse segment = .ok c → c.Plain) ∧
    ∀ (policy : Policy) (filter : String) (cs : List Clause), policy.clauses filter = .ok cs →
      policy.clauses (renderAll cs) = .ok cs ∧
      ∀ (T : Type) (schema : Schema T), policy.parse schema (renderAll cs) =
        (policy.parse schema filter).mapError (.withFilter (renderAll cs)) := by
  refine ⟨?_, ?_, ?_⟩
  · intro c
    exact parse_render_iff
  · intro segment c parsed
    exact plain_of_parse parsed
  · intro policy filter cs read
    have reread := Policy.clauses_renderAll read
    exact ⟨reread, fun T schema => Policy.parse_of_same_clauses schema read reread⟩

/-- What the clauses of a filter lose when they are written again is the blanks,
the empty pieces and the case of the tokens. The bar of a value stays. -/
theorem Clause.render_roundTrip_person :
    ∃ cs, Policy.clauses {} " age | GT |17 ;; nickname|in|a|b,, c" = .ok cs ∧
      renderAll cs = "age|gt|17;nickname|in|a|b,c" ∧
      Policy.clauses {} "age|gt|17;nickname|in|a|b,c" = .ok cs ∧
      Policy.parse {} Person.schema "age|gt|17;nickname|in|a|b,c" =
        (Policy.parse {} Person.schema " age | GT |17 ;; nickname|in|a|b,, c").mapError
          (.withFilter "age|gt|17;nickname|in|a|b,c") := by
  have written : (Policy.clauses {} " age | GT |17 ;; nickname|in|a|b,, c").map renderAll =
      .ok "age|gt|17;nickname|in|a|b,c" := by decide +kernel
  obtain ⟨cs, read, same⟩ := map_eq_ok_iff.mp written
  obtain ⟨reread, again⟩ := render_roundTrip.2.2 {} _ cs read
  rw [same] at reread again
  exact ⟨cs, read, same, reread, again _ Person.schema⟩

end RecordFilter
