import RecordFilter.Proofs.FieldTest
import RecordFilter.Proofs.FinalSigma

/-!
# Searching for the parts of a text

A search puts the pattern and the text in lower case, each for itself. A part
of the text is found by a search for it if it is seamless, as every part
without a capital sigma is. A part that cuts a word at a capital sigma can
change by this in lower case, and then it is not found where it stands.
-/

namespace RecordFilter

open Results Text

variable {T : Type}

theorem TextOp.holdsFor_text (op : TextOp) (s t : String) :
    op.holdsFor (.text s) (lower t) = true ↔
      op.Relates (lowerChars t.toList) (lowerChars s.toList) := by
  rw [holdsFor_iff]
  constructor
  · rintro ⟨s', same, related⟩
    obtain rfl := Value.text.inj same
    rwa [lower, lower, String.toList_ofList, String.toList_ofList] at related
  · intro related
    refine ⟨s, rfl, ?_⟩
    rwa [lower, lower, String.toList_ofList, String.toList_ofList]

namespace Schema

/-- **Parts of a text.** For a pattern that is not blank, the three searches in
a field of texts can be made. Where the text of a record is the pattern between
others and the pattern is seamless there, it is found; at the beginning and at
the end of the text it is found exactly then. A pattern is seamless between all
others if there is no capital sigma in it, and whatever is in it between others
from which no word reaches into it. -/
theorem search_part (schema : Schema T) {path : String} {i : Nat} {f : Field T}
    (means : schema.Means path i f) (named : isBlank path = false) (text : f.type = .text)
    {t : String} (filled : isBlank t = false) :
    ∃ contains starts ends, schema.Tests path .contains [t] contains ∧
      schema.Tests path .startsWith [t] starts ∧ schema.Tests path .endsWith [t] ends ∧
      (∀ record a b, f.value record = .text (a ++ t ++ b) →
        Seamless a.toList t.toList b.toList → contains.holds record = true) ∧
      (∀ record b, f.value record = .text (t ++ b) →
        (starts.holds record = true ↔ Seamless [] t.toList b.toList)) ∧
      (∀ record a, f.value record = .text (a ++ t) →
        (ends.holds record = true ↔ Seamless a.toList t.toList [])) ∧
      ∀ a b, ('Σ' ∉ t.toList ∨ casedAfter false a = false ∧ casedAhead b = false) →
        Seamless a t.toList b := by
  obtain ⟨contains, madeC, holdsC⟩ := exists_tests_search means named text filled
    (show Operator.contains.test = .search .contains from rfl)
  obtain ⟨starts, madeS, holdsS⟩ := exists_tests_search means named text filled
    (show Operator.startsWith.test = .search .startsWith from rfl)
  obtain ⟨ends, madeE, holdsE⟩ := exists_tests_search means named text filled
    (show Operator.endsWith.test = .search .endsWith from rfl)
  refine ⟨contains, starts, ends, madeC, madeS, madeE, ?_, ?_, ?_, ?_⟩
  · intro record a b around seamless
    rw [holdsC, around, TextOp.holdsFor_text, String.toList_append, String.toList_append]
    exact lowerChars_infix seamless
  · intro record b behind
    rw [holdsS, behind, TextOp.holdsFor_text, String.toList_append]
    exact lowerChars_prefix_iff
  · intro record a ahead
    rw [holdsE, ahead, TextOp.holdsFor_text, String.toList_append]
    exact lowerChars_suffix_iff
  · rintro a b (none | ⟨first, last⟩)
    · exact seamless_of_not_mem none a b
    · exact seamless_of_uncut first last t.toList

/-- A whole word is found with and without others around it, and at the end of a
text also if its sigma is the end of a longer word. -/
theorem search_part_person :
    ∃ p q : Predicate Person.schema, Person.schema.Tests "nickname" .contains ["ΟΔΟΣ"] p ∧
      Person.schema.Tests "nickname" .endsWith ["ΟΔΟΣ"] q ∧
      (∀ record : Person, record.nickname = some ("Η " ++ "ΟΔΟΣ" ++ ", 1") →
        p.holds record = true) ∧
      ∀ record : Person, record.nickname = some ("ΑΝ" ++ "ΟΔΟΣ") → q.holds record = true := by
  have resolved : Person.schema.resolve "nickname" = .ok ⟨"Nickname", 1, .text, true⟩ :=
    resolve_eq_ok_iff.mpr (by decide +kernel)
  obtain ⟨i, f, means, known⟩ := resolve_eq_ok_iff_means.mp resolved
  have position : 1 = i := congrArg FieldRef.index known
  subst position
  have field : Person.schema.fieldAt? 1 = some (.optional "Nickname" .text Person.nickname) := rfl
  have value (record : Person) (s : String) (nickname : record.nickname = some s) :
      (Field.optional "Nickname" .text Person.nickname).value record = .text s := by
    show @ValueType.Reading.value .text true record.nickname = .text s
    rw [nickname]
    rfl
  obtain rfl := Option.some.inj (field.symm.trans means.1.1)
  have filled : isBlank "ΟΔΟΣ" = false := by decide +kernel
  obtain ⟨p, -, q, madeP, -, madeQ, inside, -, last, -⟩ :=
    search_part Person.schema means (by decide +kernel) rfl filled
  refine ⟨p, q, madeP, madeQ, ?_, ?_⟩
  · intro record nickname
    exact inside record "Η " ", 1" (value record _ nickname) (by decide +kernel)
  · intro record nickname
    exact (last record "ΑΝ" (value record _ nickname)).mpr (by decide +kernel)

/-- In "ΑΣΑ", the capital sigma of "ΑΣ" ends no word, and that of "Σ" does so
in "ΑΣ" only. So these parts are in lower case what the texts do not contain. -/
theorem search_part_missed :
    ∃ (p q r : Predicate Person.schema) (record record' : Person),
      Person.schema.Tests "nickname" .contains ["ΑΣ"] p ∧
      Person.schema.Tests "nickname" .startsWith ["ΑΣ"] q ∧
      Person.schema.Tests "nickname" .endsWith ["Σ"] r ∧
      record.nickname = some ("ΑΣ" ++ "Α") ∧ p.holds record = false ∧ q.holds record = false ∧
      record'.nickname = some ("Α" ++ "Σ") ∧ r.holds record' = false := by
  let record : Person := ⟨⟨0, by decide⟩, some "ΑΣΑ", ""⟩
  let record' : Person := ⟨⟨0, by decide⟩, some "ΑΣ", ""⟩
  obtain ⟨p, madeP, rejectsP⟩ := toOption_map_eq_some_iff.mp
    (show (((Clause.ofParts "nickname" .contains ["ΑΣ"]).bind
      (Predicate.ofClause Person.schema)).map (·.holds record)).toOption = some false by
      decide +kernel)
  obtain ⟨q, madeQ, rejectsQ⟩ := toOption_map_eq_some_iff.mp
    (show (((Clause.ofParts "nickname" .startsWith ["ΑΣ"]).bind
      (Predicate.ofClause Person.schema)).map (·.holds record)).toOption = some false by
      decide +kernel)
  obtain ⟨r, madeR, rejectsR⟩ := toOption_map_eq_some_iff.mp
    (show (((Clause.ofParts "nickname" .endsWith ["Σ"]).bind
      (Predicate.ofClause Person.schema)).map (·.holds record')).toOption = some false by
      decide +kernel)
  exact ⟨p, q, r, record, record', madeP, madeQ, madeR, rfl, rejectsP, rejectsQ, rfl, rejectsR⟩

end Schema

end RecordFilter
