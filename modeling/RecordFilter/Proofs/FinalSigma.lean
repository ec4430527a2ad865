import Mathlib.Data.List.Basic
import RecordFilter.Text.LowerCase

/-!
# Lower case of the parts of a text

Lower case goes by single characters but for the capital sigma, which becomes
another letter where it ends a word. A part of a text may begin or end in the
middle of a word, so its sigmas need not be the same letters in lower case as
those of the text. A part has no other letters in the text than alone exactly
if each of its capital sigmas ends a word in both or in neither.
-/

namespace RecordFilter.Text

/-! ## Between other characters -/

/-- Whether the last character that counts is a cased letter, after all of
these. -/
def casedAfter (before : Bool) (cs : List Char) : Bool :=
  cs.foldl casedBehind before

/-- Lower case in front of other characters. -/
def lowerBefore (before : Bool) (back : List Char) : List Char → List Char
  | [] => []
  | c :: rest =>
    (if c = 'Σ' then [if before && !casedAhead (rest ++ back) then 'ς' else 'σ']
      else lowerChar c) ++ lowerBefore (casedBehind before c) back rest

/-- A capital sigma between these characters ends a word. -/
def endsWord (front back : List Char) : Bool :=
  casedAfter false front && !casedAhead back

/-- Each capital sigma of the part ends a word between the front and the back
if and only if it does in the part alone. -/
def Seamless (front part back : List Char) : Prop :=
  ∀ u v, part = u ++ 'Σ' :: v → endsWord (front ++ u) (v ++ back) = endsWord u v

variable {before before' : Bool} {front part back back' : List Char}

theorem casedAfter_append (before : Bool) (xs ys : List Char) :
    casedAfter before (xs ++ ys) = casedAfter (casedAfter before xs) ys :=
  List.foldl_append

/-- A text is lowered part by part. What a part has to know of those in front
of it is one bit. -/
theorem lowerAfter_append (before : Bool) (part back : List Char) :
    lowerAfter before (part ++ back) =
      lowerBefore before back part ++ lowerAfter (casedAfter before part) back := by
  induction part generalizing before with
  | nil => rfl
  | cons c rest ih =>
      rw [List.cons_append, lowerAfter, lowerBefore, ih, List.append_assoc]
      rfl

theorem lowerBefore_nil (before : Bool) (part : List Char) :
    lowerBefore before [] part = lowerAfter before part := by
  have whole := lowerAfter_append before part []
  simpa [lowerAfter] using whole.symm

/-- The text as a whole, around the part. -/
theorem lowerChars_around (front part back : List Char) :
    lowerChars (front ++ part ++ back) =
      lowerBefore false (part ++ back) front ++
        (lowerBefore (casedAfter false front) back part ++
          lowerAfter (casedAfter false (front ++ part)) back) := by
  rw [lowerChars, List.append_assoc, lowerAfter_append, lowerAfter_append, casedAfter_append]

/-- Both sigmas are a single letter. -/
theorem length_lowerBefore (before before' : Bool) :
    (lowerBefore before back part).length = (lowerBefore before' back' part).length := by
  induction part generalizing before before' with
  | nil => rfl
  | cons c rest ih =>
      rw [lowerBefore, lowerBefore, List.length_append, List.length_append,
        ih (casedBehind before c) (casedBehind before' c)]
      split <;> rfl

/-- The capital sigmas of a part are its first character, if that is one, and
those of the rest. -/
theorem forall_sigma_cons {c : Char} {rest : List Char} {P : List Char → List Char → Prop} :
    (∀ u v, c :: rest = u ++ 'Σ' :: v → P u v) ↔
      (c = 'Σ' → P [] rest) ∧ ∀ u v, rest = u ++ 'Σ' :: v → P (c :: u) v := by
  constructor
  · intro each
    exact ⟨fun first => each [] rest (by rw [first]; rfl), fun u v later => each (c :: u) v
      (by rw [later]; rfl)⟩
  · rintro ⟨first, later⟩ u v split
    cases u with
    | nil =>
        obtain ⟨sigma, rfl⟩ := List.cons.inj split
        exact first sigma
    | cons d u =>
        obtain ⟨rfl, others⟩ := List.cons.inj split
        exact later u v others

/-- Surroundings make no difference to a part if they make none to any of its
capital sigmas. -/
theorem lowerBefore_eq_iff :
    lowerBefore before back part = lowerBefore before' back' part ↔
      ∀ u v, part = u ++ 'Σ' :: v →
        (casedAfter before u && !casedAhead (v ++ back)) =
          (casedAfter before' u && !casedAhead (v ++ back')) := by
  induction part generalizing before before' with
  | nil => simp [lowerBefore]
  | cons c rest ih =>
      rw [lowerBefore, lowerBefore, forall_sigma_cons]
      by_cases sigma : c = 'Σ'
      · -- the two small sigmas are different letters
        have letters (p q : Bool) :
            (if p then 'ς' else 'σ') = (if q then 'ς' else 'σ') ↔ p = q := by
          cases p <;> cases q <;> decide
        rw [if_pos sigma, if_pos sigma, List.singleton_append, List.singleton_append,
          List.cons.injEq, letters, ih]
        exact and_congr_left fun _ => ⟨fun same _ => same, fun same => same sigma⟩
      · rw [if_neg sigma, if_neg sigma, List.append_cancel_left_eq, ih]
        exact (and_iff_right fun found => absurd found sigma).symm

/-- Alone a part has the same lower case as in the text if it is seamless
there, and only then. -/
theorem seamless_iff : Seamless front part back ↔
    lowerChars part = lowerBefore (casedAfter false front) back part := by
  rw [lowerChars, ← lowerBefore_nil, lowerBefore_eq_iff]
  unfold Seamless endsWord
  simp only [casedAfter_append, List.append_nil, eq_comm]

instance : Decidable (Seamless front part back) :=
  decidable_of_iff _ seamless_iff.symm

/-- Without capital sigmas there is nothing to go wrong. -/
theorem seamless_of_not_mem (none : 'Σ' ∉ part) (front back : List Char) :
    Seamless front part back := by
  rintro u v rfl
  exact absurd (by simp) none

/-- Characters that do not count are passed over, and what follows them decides
unless a character that counts comes first. -/
theorem casedAhead_append (uncut : casedAhead back = false) (front : List Char) :
    casedAhead (front ++ back) = casedAhead front := by
  induction front with
  | nil => exact uncut
  | cons c rest ih =>
      unfold casedAhead at ih ⊢
      by_cases ignored : isCaseIgnorable c = true
      · rw [List.cons_append, List.dropWhile_cons_of_pos ignored,
          List.dropWhile_cons_of_pos ignored, ih]
      · rw [List.cons_append, List.dropWhile_cons_of_neg ignored,
          List.dropWhile_cons_of_neg ignored]

/-- No word reaches into the part from either side. -/
theorem seamless_of_uncut (first : casedAfter false front = false)
    (last : casedAhead back = false) (part : List Char) : Seamless front part back := by
  rintro u v -
  rw [endsWord, endsWord, casedAfter_append, first, casedAhead_append last]

/-! ## Finding a part in its text -/

/-- Between the same characters a part is as long as it is alone. -/
theorem length_lowerChars :
    (lowerChars part).length = (lowerBefore before back part).length := by
  rw [lowerChars, ← lowerBefore_nil, length_lowerBefore false before]

/-- A seamless part is found inside the text. -/
theorem lowerChars_infix (seamless : Seamless front part back) :
    lowerChars part <:+: lowerChars (front ++ part ++ back) := by
  rw [lowerChars_around, seamless_iff.mp seamless]
  exact ⟨_, _, List.append_assoc _ _ _⟩

/-- The beginning of a text is found there exactly if it is seamless. -/
theorem lowerChars_prefix_iff :
    lowerChars part <+: lowerChars (part ++ back) ↔ Seamless [] part back := by
  have whole : lowerChars (part ++ back) =
      lowerBefore false back part ++ lowerAfter (casedAfter false part) back :=
    lowerAfter_append false part back
  rw [seamless_iff, whole]
  constructor
  · rintro ⟨rest, found⟩
    exact List.append_inj_left found length_lowerChars
  · intro same
    rw [same]
    exact List.prefix_append _ _

/-- The end of a text is found there exactly if it is seamless. -/
theorem lowerChars_suffix_iff :
    lowerChars part <:+ lowerChars (front ++ part) ↔ Seamless front part [] := by
  have whole : lowerChars (front ++ part) =
      lowerBefore false part front ++ lowerBefore (casedAfter false front) [] part := by
    rw [lowerBefore_nil]
    exact lowerAfter_append false front part
  rw [seamless_iff, whole]
  constructor
  · rintro ⟨rest, found⟩
    exact List.append_inj_right' found length_lowerChars
  · intro same
    rw [same]
    exact List.suffix_append _ _

end RecordFilter.Text
