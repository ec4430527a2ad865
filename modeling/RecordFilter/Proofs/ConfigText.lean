import RecordFilter.Config
import RecordFilter.Proofs.JsonDocument
import RecordFilter.Proofs.Results

/-!
# Configurations written and read back

Writing a configuration and reading what was written gives the configuration again,
whatever characters its paths consist of, and refuses just the ones that are not valid.
-/

namespace RecordFilter

open Json (Document Token stringChars)
open Json.Document (restTokens)
open Text (isBlank)
open Number Results

namespace Config

variable {c : Config} {s : String} {e : ConfigError}

/-! ## Documents -/

/-- The allowed paths as a document. -/
def allowedDocument : Option (List String) → Document
  | none => .null
  | some paths => .array (paths.map fun path => .string (some path))

/-- The limit as a document. -/
def limitDocument : Option UInt64 → Document
  | none => .null
  | some limit => .number (some limit.toNat)

/-- The configuration as a document: an object of the two settings. -/
def document (c : Config) : Document :=
  .object [(some "allowed_properties", allowedDocument c.allowedProperties),
    (some "max_clauses", limitDocument c.maxClauses)]

theorem mapM_readText? (paths : List String) :
    (paths.map fun path => Document.string (some path)).mapM readText? = some paths := by
  induction paths with
  | nil => rfl
  | cons path paths ih =>
      rw [List.map_cons, List.mapM_cons, ih]
      rfl

theorem readAllowed?_allowedDocument (allowed : Option (List String)) :
    readAllowed? (allowedDocument allowed) = some allowed := by
  cases allowed with
  | none => rfl
  | some paths =>
      show ((paths.map fun path => Document.string (some path)).mapM readText?).map some = _
      rw [mapM_readText?]
      rfl

theorem readLimit?_limitDocument (limit : Option UInt64) :
    readLimit? (limitDocument limit) = some limit := by
  cases limit with
  | none => rfl
  | some limit =>
      have small : limit.toNat < UInt64.size := limit.toNat_lt_size
      show (if h : limit.toNat < UInt64.size then some (some (UInt64.ofNatLT limit.toNat h))
        else none) = _
      rw [dif_pos small, UInt64.ofNatLT_toNat]

/-- The settings are in the document. -/
theorem ofDocument?_document (c : Config) : ofDocument? c.document = some c := by
  have allowed := readAllowed?_allowedDocument c.allowedProperties
  have limit := readLimit?_limitDocument c.maxClauses
  -- each name stands in the document once
  have byName : ofDocument? c.document =
      (readAllowed? (allowedDocument c.allowedProperties)).bind fun allowedProperties =>
        (readLimit? (limitDocument c.maxClauses)).bind fun maxClauses =>
          some { allowedProperties, maxClauses } := by
    rfl
  rw [byName, allowed, limit]
  rfl

/-! ## Texts -/

/-- By induction on the paths: they stand in an array, with commas between them. -/
theorem intercalate_stringChars (path : String) (paths : List String) :
    [','].intercalate ((path :: paths).map stringChars) ++ [']'] =
      stringChars path ++
        (restTokens (paths.map fun path => .string (some path))).flatMap Token.chars := by
  induction paths generalizing path with
  | nil => simp [restTokens, Token.chars]
  | cons next paths ih =>
      have others := ih next
      rw [List.map_cons] at others
      rw [List.map_cons, List.map_cons, List.intercalate_cons_cons, List.append_assoc,
        List.append_assoc, others]
      simp [restTokens, Document.tokens, Token.chars]

theorem allowedChars_eq (allowed : Option (List String)) :
    allowedChars allowed = (allowedDocument allowed).tokens.flatMap Token.chars := by
  match allowed with
  | none => rfl
  | some [] => rfl
  | some (path :: paths) =>
      show '[' :: ([','].intercalate ((path :: paths).map stringChars) ++ [']']) = _
      rw [intercalate_stringChars]
      simp [allowedDocument, Document.tokens, Token.chars]

theorem limitChars_eq (limit : Option UInt64) :
    limitChars limit = (limitDocument limit).tokens.flatMap Token.chars := by
  cases limit with
  | none => rfl
  | some limit => simp [limitChars, limitDocument, Document.tokens, Token.chars]

/-- A configuration is written as its document. -/
theorem render_eq (c : Config) : c.render = c.document.text := by
  have chars := allowedChars_eq c.allowedProperties
  have limit := limitChars_eq c.maxClauses
  unfold render Document.text
  rw [chars, limit]
  simp [document, Document.tokens, Document.restMemberTokens, Token.chars]

theorem isPlain_of_mem_restTokens {paths : List String} {t : Token}
    (member : t ∈ restTokens (paths.map fun path => .string (some path))) : t.isPlain = true := by
  induction paths with
  | nil =>
      simp only [List.map_nil, restTokens, List.mem_singleton] at member
      rw [member]
      rfl
  | cons path paths ih =>
      simp only [List.map_cons, restTokens, Document.tokens, List.cons_append, List.nil_append,
        List.mem_cons] at member
      obtain rfl | rfl | others := member
      · rfl
      · rfl
      · exact ih others

theorem isPlain_of_mem_allowedDocument {allowed : Option (List String)} {t : Token}
    (member : t ∈ (allowedDocument allowed).tokens) : t.isPlain = true := by
  match allowed with
  | none =>
      simp only [allowedDocument, Document.tokens, List.mem_singleton] at member
      rw [member]
      rfl
  | some [] =>
      simp only [allowedDocument, List.map_nil, Document.tokens, List.mem_cons,
        List.not_mem_nil, or_false] at member
      obtain rfl | rfl := member <;> rfl
  | some (path :: paths) =>
      simp only [allowedDocument, List.map_cons, Document.tokens, List.cons_append,
        List.nil_append, List.mem_cons] at member
      obtain rfl | rfl | others := member
      · rfl
      · rfl
      · exact isPlain_of_mem_restTokens others

theorem isPlain_of_mem_document {t : Token} (member : t ∈ c.document.tokens) :
    t.isPlain = true := by
  have limit : ∀ t ∈ (limitDocument c.maxClauses).tokens, t.isPlain = true := by
    cases c.maxClauses <;> simp [limitDocument, Document.tokens, Token.isPlain]
  simp only [document, Document.tokens, Document.restMemberTokens, List.mem_cons,
    List.mem_append] at member
  grind [Token.isPlain, isPlain_of_mem_allowedDocument]

/-- What is written is the document of the configuration again. -/
theorem parse?_render (c : Config) : Document.parse? c.render = some c.document := by
  rw [render_eq]
  exact Document.parse?_text fun _ => isPlain_of_mem_document

/-! ## Validation -/

/-- A limit that lets some clause through, and paths that name something. -/
def Valid (c : Config) : Prop :=
  c.maxClauses ≠ some 0 ∧
    ∀ paths, c.allowedProperties = some paths → ∀ path ∈ paths, isBlank path = false

theorem validate_eq_ok_iff : c.validate = .ok () ↔ c.Valid := by
  have named : (c.allowedProperties.getD []).find? isBlank = none ↔
      ∀ paths, c.allowedProperties = some paths → ∀ path ∈ paths, isBlank path = false := by
    cases c.allowedProperties <;> simp
  unfold validate Valid
  rw [← named]
  split
  · rename_i zero
    simp [zero]
  · rename_i positive
    cases (c.allowedProperties.getD []).find? isBlank <;> simp [positive]

theorem ne_unreadable_of_validate (invalid : c.validate = .error e) : e ≠ .unreadable := by
  unfold validate at invalid
  split at invalid
  · cases invalid
    simp
  · split at invalid
    · cases invalid
      simp
    · cases invalid

/-- What is written is read as the configuration, and validated. -/
theorem parse_render_eq (c : Config) : parse c.render = c.validate.map fun _ => c := by
  unfold parse
  rw [parse?_render, Option.bind_some, ofDocument?_document]

theorem validate_of_parse (read : parse s = .ok c) : c.validate = .ok () := by
  unfold parse at read
  split at read
  · cases read
  · obtain ⟨⟨⟩, valid, rfl⟩ := map_eq_ok_iff.mp read
    exact valid

theorem parse_render_of_valid (valid : c.Valid) : parse c.render = .ok c := by
  rw [parse_render_eq, validate_eq_ok_iff.mpr valid]
  rfl

/-! ## Round trip -/

/-- **Configurations.** What passes validation is what has a limit other than zero and
no blank path. A configuration that passes is read back as it is from what is written
for it, and any other is refused with what validation finds wrong. Every text that is
read at all gives one that passes, so that it can be written and read again. -/
theorem parse_render (c : Config) :
    (c.validate = .ok () ↔ c.Valid) ∧
    (c.validate = .ok () → parse c.render = .ok c) ∧
    (∀ e, c.validate = .error e → e ≠ .unreadable ∧ parse c.render = .error e) ∧
    ∀ s, parse s = .ok c → c.Valid ∧ parse c.render = .ok c := by
  refine ⟨validate_eq_ok_iff, ?_, ?_, ?_⟩
  · intro valid
    exact parse_render_of_valid (validate_eq_ok_iff.mp valid)
  · intro e invalid
    refine ⟨ne_unreadable_of_validate invalid, ?_⟩
    rw [parse_render_eq, invalid]
    rfl
  · intro s read
    have valid := validate_eq_ok_iff.mp (validate_of_parse read)
    exact ⟨valid, parse_render_of_valid valid⟩

/-- Settings whose paths look like pieces of JSON, with the largest limit there is. -/
def awkward : Config where
  allowedProperties := some ["na\"me", "back\\slash", "\x00\n\x1f", "a]\x7d,é😀"]
  maxClauses := some 0xFFFFFFFFFFFFFFFF

/-- The awkward settings come back, those with a path of nothing but a tab are refused,
and what is written by hand and as an array is good enough to be written again. -/
theorem parse_render_awkward :
    parse awkward.render = .ok awkward ∧
    parse (render { awkward with allowedProperties := some ["name", "\t"] }) =
      .error (.blankProperty "\t") ∧
    parse " [ [\"\\u00e9\\/\"] , 7 ] " = .ok ⟨some ["é/"], some 7⟩ ∧
    parse (render ⟨some ["é/"], some 7⟩) = .ok ⟨some ["é/"], some 7⟩ := by
  have byHand : parse " [ [\"\\u00e9\\/\"] , 7 ] " = .ok ⟨some ["é/"], some 7⟩ := by
    decide +kernel
  refine ⟨?_, ?_, byHand, ?_⟩
  · exact (parse_render awkward).2.1 (by decide +kernel)
  · exact ((parse_render { awkward with allowedProperties := some ["name", "\t"] }).2.2.1 _
      (by decide +kernel)).2
  · exact ((parse_render ⟨some ["é/"], some 7⟩).2.2.2 _ byHand).2

end Config

end RecordFilter
