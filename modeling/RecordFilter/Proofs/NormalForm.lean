import RecordFilter.Proofs.Confinement
import RecordFilter.Proofs.LowerAscii
import RecordFilter.Proofs.LowerTrim

/-!
# The normal form of paths

The normal form of a path is one of its spellings, and the one that they all lead to.
It has the segments of the path, each in lower case and without blanks around it: no
dot comes or goes with lower case, and neither does a blank. So the look-up of a field
and a whitelist may be asked with a path or with its normal form.
-/

namespace RecordFilter

open Text

namespace Path

/-! ## Segments -/

variable {path s : String}

/-- What every spelling of a segment comes to. -/
def normalSegment (segment : String) : String :=
  lower (trim segment)

theorem normalize_eq (path : String) :
    normalize path = String.intercalate "." ((pieces '.' path).map normalSegment) :=
  rfl

theorem trim_normalSegment (s : String) : trim (normalSegment s) = normalSegment s := by
  rw [normalSegment, trim_lower, trim_trim]

theorem normalSegment_normalSegment (s : String) :
    normalSegment (normalSegment s) = normalSegment s := by
  rw [normalSegment, trim_normalSegment, normalSegment, lower_lower]

/-- There is no dot in the lower case of any letter. -/
theorem dot_not_mem_normalSegment (apart : '.' ∉ s.toList) : '.' ∉ (normalSegment s).toList := by
  intro member
  exact apart (mem_of_mem_trim (mem_of_mem_lower (by decide) (by decide) member))

/-! ## Paths -/

/-- The normal form of a path in segments. -/
theorem normalize_intercalate {segments : List String} (some : segments ≠ [])
    (apart : ∀ s ∈ segments, '.' ∉ s.toList) :
    normalize (String.intercalate "." segments) =
      String.intercalate "." (segments.map normalSegment) := by
  have dot : ("." : String) = String.ofList ['.'] := rfl
  rw [normalize_eq, dot, pieces_intercalate some apart]

/-- The segments of the normal form are the normal segments of the path. -/
theorem pieces_normalize (path : String) :
    pieces '.' (normalize path) = (pieces '.' path).map normalSegment := by
  have dot : ("." : String) = String.ofList ['.'] := rfl
  rw [normalize_eq, dot, pieces_intercalate]
  · simp [pieces_ne_nil]
  · intro segment member
    obtain ⟨piece, among, rfl⟩ := List.mem_map.mp member
    exact dot_not_mem_normalSegment (not_mem_of_mem_pieces among)

theorem normalize_normalize (path : String) : normalize (normalize path) = normalize path := by
  have twice : normalSegment ∘ normalSegment = normalSegment :=
    funext normalSegment_normalSegment
  rw [normalize_eq (normalize path), pieces_normalize, List.map_map, twice, normalize_eq]

theorem count_normalize (path : String) :
    (normalize path).toList.count '.' = path.toList.count '.' := by
  have before := length_pieces '.' path
  have after := length_pieces '.' (normalize path)
  rw [pieces_normalize, List.length_map] at after
  omega

/-- The segments of the normal form have no blanks around them. -/
theorem trim_of_mem_pieces_normalize {segment : String}
    (member : segment ∈ pieces '.' (normalize path)) : trim segment = segment := by
  rw [pieces_normalize] at member
  obtain ⟨piece, -, rfl⟩ := List.mem_map.mp member
  exact trim_normalSegment piece

/-! ## Other spellings -/

/-- Blanks around a path do not count. -/
theorem normalize_trim (path : String) : normalize (trim path) = normalize path := by
  have segments : (pieces '.' (trim path)).map trim = (pieces '.' path).map trim :=
    map_trim_pieces_trim (by decide) path
  have lowered := congrArg (List.map lower) segments
  rw [List.map_map, List.map_map] at lowered
  exact congrArg (String.intercalate ".") lowered

theorem normalize_pad {front back : String} (path : String) (frontBlank : isBlank front = true)
    (backBlank : isBlank back = true) : normalize (front ++ path ++ back) = normalize path := by
  rw [← normalize_trim, trim_pad path frontBlank backBlank, normalize_trim]

/-- Blanks around a dot are around the segments beside it. -/
theorem normalize_dot {front back : String} (object path : String)
    (frontBlank : isBlank front = true) (backBlank : isBlank back = true) :
    normalize (object ++ front ++ "." ++ (back ++ path)) = normalize (object ++ "." ++ path) := by
  have left : normalize (object ++ front) = normalize object := by
    have padded : normalize ("" ++ object ++ front) = normalize object :=
      normalize_pad object rfl frontBlank
    rwa [String.empty_append] at padded
  have right : normalize (back ++ path) = normalize path := by
    have padded : normalize (back ++ path ++ "") = normalize path :=
      normalize_pad path backBlank rfl
    rwa [String.append_empty] at padded
  calc normalize (object ++ front ++ "." ++ (back ++ path))
      = normalize (object ++ front) ++ "." ++ normalize (back ++ path) := normalize_member _ _
    _ = normalize object ++ "." ++ normalize path := by rw [left, right]
    _ = normalize (object ++ "." ++ path) := (normalize_member _ _).symm

/-- The second list has the segments of the first one, or their normal forms in place
of some of them. -/
def Respelled : List String → List String → Prop :=
  List.Forall₂ fun s s' => s' = s ∨ s' = normalSegment s

theorem Respelled.map_normalSegment {segments segments' : List String}
    (respelled : Respelled segments segments') :
    segments'.map normalSegment = segments.map normalSegment := by
  induction respelled with
  | nil => rfl
  | cons first rest ih =>
      rw [List.map_cons, List.map_cons, ih]
      rcases first with rfl | rfl
      · rfl
      · rw [normalSegment_normalSegment]

/-- A normal segment leaves the other segments alone. -/
theorem normalize_of_respelled {segments : List String}
    (respelled : Respelled (pieces '.' path) segments) :
    normalize (String.intercalate "." segments) = normalize path := by
  rw [normalize_intercalate, respelled.map_normalSegment, normalize_eq]
  · rintro rfl
    exact pieces_ne_nil '.' path (List.forall₂_nil_right_iff.mp respelled)
  · intro s' member
    obtain ⟨s, among, rfl | rfl⟩ := Results.exists_of_forall₂ respelled.flip s' member
    · exact not_mem_of_mem_pieces among
    · exact dot_not_mem_normalSegment (not_mem_of_mem_pieces among)

end Path

/-! ## Look-up -/

/-- Of the path that is looked up, only the normal form decides on the outcome; an
error carries the path as it was given. -/
theorem Schema.resolve_normalize {T : Type} (schema : Schema T) (path : String) :
    (∃ r, schema.resolve (Path.normalize path) = .ok r ∧ schema.resolve path = .ok r) ∨
    (schema.resolve (Path.normalize path) =
        .error (.propertyNotFound (Path.normalize path) schema.entity) ∧
      schema.resolve path = .error (.propertyNotFound path schema.entity)) ∨
    (schema.resolve (Path.normalize path) =
        .error (.schema (.ambiguousPath (Path.normalize path) schema.entity)) ∧
      schema.resolve path = .error (.schema (.ambiguousPath path schema.entity))) := by
  unfold resolve
  rw [Path.normalize_normalize]
  split
  · exact .inr (.inr ⟨rfl, rfl⟩)
  · split
    · rename_i r found
      exact .inl ⟨r, rfl, rfl⟩
    · exact .inr (.inl ⟨rfl, rfl⟩)

/-- **The normal form.** To bring a path into normal form once more changes nothing. The
normal form has the dots of the path, and no segment of it begins or ends with a blank.
It is that of the path with blanks at its ends or around a dot of it, and with any of
its segments trimmed and in lower case. Any schema resolves the normal form to the
field that the path resolves to, or fails for the same reason, and any whitelist
allows it if it allows the path. -/
theorem Path.normalize_canonical (path : String) :
    normalize (normalize path) = normalize path ∧
    (normalize path).toList.count '.' = path.toList.count '.' ∧
    (∀ segment ∈ pieces '.' (normalize path), ∀ c,
      segment.toList.head? = some c ∨ segment.toList.getLast? = some c → isBlankChar c = false) ∧
    (∀ front back, isBlank front = true → isBlank back = true →
      normalize (front ++ path ++ back) = normalize path) ∧
    (∀ before after, path = before ++ "." ++ after → ∀ front back,
      isBlank front = true → isBlank back = true →
      normalize (before ++ front ++ "." ++ (back ++ after)) = normalize path) ∧
    (∀ segments, Respelled (pieces '.' path) segments →
      normalize (String.intercalate "." segments) = normalize path) ∧
    (∀ (T : Type) (schema : Schema T),
      (∃ r, schema.resolve (normalize path) = .ok r ∧ schema.resolve path = .ok r) ∨
      (schema.resolve (normalize path) =
          .error (.propertyNotFound (normalize path) schema.entity) ∧
        schema.resolve path = .error (.propertyNotFound path schema.entity)) ∨
      (schema.resolve (normalize path) =
          .error (.schema (.ambiguousPath (normalize path) schema.entity)) ∧
        schema.resolve path = .error (.schema (.ambiguousPath path schema.entity)))) ∧
    ∀ w : Whitelist, w.allows (normalize path) = w.allows path := by
  refine ⟨normalize_normalize path, count_normalize path, ?_, ?_, ?_, ?_, ?_, ?_⟩
  · intro segment member c ends
    exact not_blank_at_end (trim_of_mem_pieces_normalize member) ends
  · intro front back frontBlank backBlank
    exact normalize_pad path frontBlank backBlank
  · intro before after split front back frontBlank backBlank
    rw [split]
    exact normalize_dot before after frontBlank backBlank
  · intro segments respelled
    exact normalize_of_respelled respelled
  · intro T schema
    exact schema.resolve_normalize path
  · intro w
    exact Whitelist.allows_congr (normalize_normalize path)

/-- A sigma at the end of a segment takes its final form, a dotted capital I takes two
characters, and an empty segment stays where it is. The city is found under its
normal form, under the path with more blanks, and where one segment is lowered. -/
theorem Path.normalize_canonical_city :
    normalize " Address .\u3000CITY" = "address.city" ∧
    normalize "ΟΔΟΣ..\u0130D " = "οδος..i\u0307d" ∧
    normalize (normalize "ΟΔΟΣ..\u0130D ") = "οδος..i\u0307d" ∧
    normalize (" Address " ++ "\t" ++ "." ++ ("\n" ++ "\u3000CITY")) = "address.city" ∧
    normalize (String.intercalate "." ["address", "\u3000CITY"]) = "address.city" ∧
    ∃ r, Person.schema.resolve "address.city" = .ok r ∧
      Person.schema.resolve " Address .\u3000CITY" = .ok r := by
  have city : normalize " Address .\u3000CITY" = "address.city" := by decide +kernel
  have street : normalize "ΟΔΟΣ..\u0130D " = "οδος..i\u0307d" := by decide +kernel
  obtain ⟨-, -, -, -, spread, respelled, resolved, -⟩ := normalize_canonical " Address .\u3000CITY"
  refine ⟨city, street, ?_, ?_, ?_, ?_⟩
  · rw [(normalize_canonical "ΟΔΟΣ..\u0130D ").1, street]
  · rw [← city]
    exact spread " Address " "\u3000CITY" rfl "\t" "\n" (by decide) (by decide)
  · rw [← city]
    have split : pieces '.' " Address .\u3000CITY" = [" Address ", "\u3000CITY"] := by decide +kernel
    refine respelled ["address", "\u3000CITY"] ?_
    rw [split]
    exact .cons (.inr (by decide +kernel)) (.cons (.inl rfl) .nil)
  · have known : (Person.schema.resolve " Address .\u3000CITY").isOk = true := by decide +kernel
    rw [← city]
    rcases resolved Person Person.schema with found | ⟨-, missed⟩ | ⟨-, missed⟩
    · exact found
    · rw [missed] at known
      cases known
    · rw [missed] at known
      cases known

end RecordFilter
