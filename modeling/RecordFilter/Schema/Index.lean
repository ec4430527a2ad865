/-!
# Indexes

An index leads from a key to the position at which the key stands in a list.
It is filled by one pass over the list and keeps only the last position of each
key, so it also notes the keys that it meets again.
-/

namespace RecordFilter

/-- Positions by key, the latest first, and the keys that have come again. -/
structure Index where
  places : List (String × Nat)
  repeated : List String

namespace Index

/-- The index of no keys. -/
def empty : Index :=
  ⟨[], []⟩

/-- The last position of a key. -/
def place? (index : Index) (key : String) : Option Nat :=
  index.places.lookup key

/-- Whether a key has come more than once. -/
def isRepeated (index : Index) (key : String) : Bool :=
  index.repeated.contains key

/-- Puts a key at a position. An earlier position is no longer found, and the
key counts as repeated. -/
def insert (index : Index) (key : String) (position : Nat) : Index where
  places := (key, position) :: index.places
  repeated :=
    if (index.place? key).isSome then index.repeated.insert key else index.repeated

/-- Puts keys at the positions from `position` on. -/
def insertAll (index : Index) (position : Nat) (keys : List String) : Index :=
  (keys.zipIdx position).foldl (fun index (key, position) => index.insert key position) index

/-- The index of a list of keys. -/
def ofKeys (keys : List String) : Index :=
  empty.insertAll 0 keys

/-! ## One key -/

theorem place?_insert (index : Index) (key key' : String) (position : Nat) :
    (index.insert key position).place? key' =
      if key' = key then some position else index.place? key' := by
  by_cases same : key' = key
  · simp [place?, insert, same]
  · rw [if_neg same, place?, insert, List.lookup_cons, beq_eq_false_iff_ne.mpr same]
    rfl

theorem isRepeated_insert (index : Index) (key key' : String) (position : Nat) :
    (index.insert key position).isRepeated key' = true ↔
      index.isRepeated key' = true ∨ key' = key ∧ (index.place? key).isSome = true := by
  unfold isRepeated insert
  by_cases known : (index.place? key).isSome = true
  · simp [known, or_comm]
  · simp [known]

/-! ## All keys -/

/-- What is found in an index of these keys: the last position of each key that
there is, and whether it stands at two positions. -/
structure Describes (index : Index) (keys : List String) : Prop where
  found : ∀ (key : String) (i : Nat), keys[i]? = some key → (index.place? key).isSome = true
  last : ∀ (key : String) (i : Nat), index.place? key = some i →
    keys[i]? = some key ∧ ∀ j, keys[j]? = some key → j ≤ i
  repeated : ∀ key : String, index.isRepeated key = true ↔
    ∃ i j : Nat, i < j ∧ keys[i]? = some key ∧ keys[j]? = some key

theorem describes_empty : empty.Describes [] where
  found := by simp
  last := by simp [empty, place?]
  repeated := by simp [empty, isRepeated]

/-- One more key stands behind all the others. -/
theorem getElem?_concat_eq_some_iff {keys : List String} {key key' : String} {i : Nat} :
    (keys ++ [key])[i]? = some key' ↔
      keys[i]? = some key' ∨ i = keys.length ∧ key' = key := by
  by_cases inside : i < keys.length
  · rw [List.getElem?_append_left inside]
    constructor
    · exact .inl
    · rintro (here | ⟨rfl, -⟩)
      · exact here
      · exact absurd inside (Nat.lt_irrefl _)
  · have outside : keys[i]? = none := List.getElem?_eq_none (Nat.le_of_not_lt inside)
    rw [List.getElem?_append_right (Nat.le_of_not_lt inside), outside, List.getElem?_singleton]
    by_cases next : i - keys.length = 0
    · have last : i = keys.length := by omega
      simp [last, eq_comm]
    · have beyond : i ≠ keys.length := by omega
      simp [next, beyond]

/-- A key is found exactly if it stands somewhere. -/
theorem Describes.isSome_place?_iff {index : Index} {keys : List String}
    (describes : index.Describes keys) {key : String} :
    (index.place? key).isSome = true ↔ ∃ i : Nat, keys[i]? = some key := by
  constructor
  · intro known
    obtain ⟨i, place⟩ := Option.isSome_iff_exists.mp known
    exact ⟨i, (describes.last key i place).1⟩
  · rintro ⟨i, here⟩
    exact describes.found key i here

/-- The next key of the list keeps the index right. -/
theorem Describes.insert {index : Index} {keys : List String} (describes : index.Describes keys)
    (key : String) : (index.insert key keys.length).Describes (keys ++ [key]) where
  found key' i here := by
    rw [place?_insert]
    split
    · rfl
    · rename_i other
      rcases getElem?_concat_eq_some_iff.mp here with before | ⟨-, same⟩
      · exact describes.found key' i before
      · exact absurd same other
  last key' i place := by
    rw [place?_insert] at place
    split at place
    · -- the new key is the last of all
      rename_i same
      obtain rfl := Option.some.inj place
      refine ⟨getElem?_concat_eq_some_iff.mpr (.inr ⟨rfl, same⟩), ?_⟩
      intro j there
      rcases getElem?_concat_eq_some_iff.mp there with before | ⟨rfl, -⟩
      · exact Nat.le_of_lt (List.getElem?_eq_some_iff.mp before).1
      · exact Nat.le_refl _
    · -- any other key stands where it has stood
      rename_i other
      obtain ⟨here, last⟩ := describes.last key' i place
      refine ⟨getElem?_concat_eq_some_iff.mpr (.inl here), ?_⟩
      intro j there
      rcases getElem?_concat_eq_some_iff.mp there with before | ⟨-, same⟩
      · exact last j before
      · exact absurd same other
  repeated key' := by
    rw [isRepeated_insert, describes.repeated, describes.isSome_place?_iff]
    simp only [getElem?_concat_eq_some_iff]
    constructor
    · rintro (⟨i, j, less, first, second⟩ | ⟨same, i, first⟩)
      · exact ⟨i, j, less, .inl first, .inl second⟩
      · exact ⟨i, keys.length, (List.getElem?_eq_some_iff.mp first).1, .inl (same ▸ first),
          .inr ⟨rfl, same⟩⟩
    · rintro ⟨i, j, less, first, second⟩
      rcases first with first | ⟨rfl, -⟩
      · rcases second with second | ⟨-, same⟩
        · exact .inl ⟨i, j, less, first, second⟩
        · exact .inr ⟨same, i, same ▸ first⟩
      · -- nothing stands behind the last key
        rcases second with second | ⟨rfl, -⟩
        · have before := (List.getElem?_eq_some_iff.mp second).1
          omega
        · omega

/-- By induction on the keys that are still to come: the index describes those
that it has been given. -/
theorem Describes.insertAll {index : Index} {keys : List String}
    (describes : index.Describes keys) (more : List String) :
    (index.insertAll keys.length more).Describes (keys ++ more) := by
  induction more generalizing index keys with
  | nil => simpa [Index.insertAll] using describes
  | cons key rest ih =>
      have next := ih (describes.insert key)
      rw [List.length_append, List.length_singleton, List.append_assoc,
        List.singleton_append] at next
      exact next

theorem describes_ofKeys (keys : List String) : (ofKeys keys).Describes keys :=
  describes_empty.insertAll keys

end Index

end RecordFilter
