import Mathlib.Data.Finset.Card
import Mathlib.Data.List.Sort
import Mathlib.Data.String.Basic
import RecordFilter.Proofs.Admission
import RecordFilter.Proofs.NormalForm

/-!
# Spellings of allowed paths

A whitelist keeps one spelling for each normal form in the list that it is made of,
namely the last one. Trimming a path does not change its normal form, so different
entries have different spellings, and the set of spellings makes the same whitelist
again.
-/

namespace RecordFilter

open Text

namespace Whitelist

variable {paths : List String} {path s : String} {e : String × String}

/-! ## Entries -/

/-- The path stands in the list, and behind it there is no other spelling of it. -/
def IsLatest (paths : List String) (path : String) : Prop :=
  ∃ front back, paths = front ++ path :: back ∧
    ∀ later ∈ back, Path.normalize later ≠ Path.normalize path

theorem IsLatest.mem (latest : IsLatest paths path) : path ∈ paths := by
  obtain ⟨front, back, rfl, -⟩ := latest
  simp

/-- One more path is the latest of its spellings, and takes that from the others. -/
theorem isLatest_concat {last : String} : IsLatest (paths ++ [last]) path ↔
    (IsLatest paths path ∧ Path.normalize path ≠ Path.normalize last) ∨ path = last := by
  constructor
  · rintro ⟨front, back, split, other⟩
    -- with nothing behind it, the path is the one that is added
    rcases List.eq_nil_or_concat back with rfl | ⟨back, final, rfl⟩
    · obtain ⟨-, same⟩ := List.append_inj' split rfl
      exact .inr (List.singleton_inj.mp same).symm
    · have parted : paths ++ [last] = (front ++ path :: back) ++ [final] := by
        simpa using split
      obtain ⟨rfl, same⟩ := List.append_inj' parted rfl
      obtain rfl := List.singleton_inj.mp same
      refine .inl ⟨⟨front, back, rfl, ?_⟩, ?_⟩
      · intro later member
        exact other later (by simp [member])
      · exact (other last (by simp)).symm
  · rintro (⟨⟨front, back, rfl, other⟩, differs⟩ | rfl)
    · refine ⟨front, back ++ [last], by simp, ?_⟩
      intro later member
      rcases List.mem_append.mp member with member | member
      · exact other later member
      · rw [List.mem_singleton.mp member]
        exact differs.symm
    · exact ⟨paths, [], rfl, by simp⟩

/-- If no two paths have one normal form, each of them is the latest. -/
theorem isLatest_iff_mem (distinct : (paths.map Path.normalize).Nodup) :
    IsLatest paths path ↔ path ∈ paths := by
  refine ⟨IsLatest.mem, ?_⟩
  intro member
  obtain ⟨front, back, rfl⟩ := List.append_of_mem member
  refine ⟨front, back, rfl, ?_⟩
  intro later behind same
  rw [List.map_append, List.map_cons] at distinct
  have apart := (List.nodup_cons.mp (List.nodup_append.mp distinct).2.1).1
  exact apart (same ▸ List.mem_map_of_mem behind)

theorem mem_insert_entries {w : Whitelist} : e ∈ (w.insert path).entries ↔
    (e ∈ w.entries ∧ e.1 ≠ Path.normalize path) ∨ e = (Path.normalize path, trim path) := by
  simp [insert]

/-- By induction on the list from its end: the entries are those of the latest
spellings. -/
theorem mem_ofList_entries : e ∈ (ofList paths).entries ↔
    ∃ path, IsLatest paths path ∧ e = (Path.normalize path, trim path) := by
  induction paths using List.reverseRecOn generalizing e with
  | nil =>
      refine iff_of_false (by simp [ofList, empty]) ?_
      rintro ⟨path, latest, -⟩
      exact List.not_mem_nil latest.mem
  | append_singleton paths last ih =>
      have step : ofList (paths ++ [last]) = (ofList paths).insert last := by
        simp [ofList]
      rw [step, mem_insert_entries, ih]
      simp only [isLatest_concat]
      constructor
      · -- the entry was there before and stays, or is the new one
        rintro (⟨⟨path, latest, rfl⟩, differs⟩ | rfl)
        · exact ⟨path, .inl ⟨latest, differs⟩, rfl⟩
        · exact ⟨last, .inr rfl, rfl⟩
      · rintro ⟨path, ⟨latest, differs⟩ | rfl, rfl⟩
        · exact .inl ⟨⟨path, latest, rfl⟩, differs⟩
        · exact .inr rfl

theorem normalize_spelling (member : e ∈ (ofList paths).entries) :
    Path.normalize e.2 = e.1 := by
  obtain ⟨path, -, rfl⟩ := mem_ofList_entries.mp member
  rw [Path.normalize_trim]

/-- The keys are the normal forms of the spellings. -/
theorem map_normalize_entries (paths : List String) :
    ((ofList paths).entries.map Prod.snd).map Path.normalize =
      (ofList paths).entries.map Prod.fst := by
  rw [List.map_map]
  exact List.map_congr_left fun _ member => normalize_spelling member

/-! ## The set of spellings -/

theorem eraseDups_of_nodup {texts : List String} (distinct : texts.Nodup) :
    texts.eraseDups = texts := by
  induction texts with
  | nil => rfl
  | cons t rest ih =>
      obtain ⟨absent, distinct⟩ := List.nodup_cons.mp distinct
      have kept : (rest.filter fun b => !b == t) = rest := by
        refine List.filter_eq_self.mpr ?_
        rintro b member
        simp only [Bool.not_eq_true', beq_eq_false_iff_ne, ne_eq]
        rintro rfl
        exact absent member
      rw [List.eraseDups_cons, kept, ih distinct]

theorem nodup_spellings_entries (paths : List String) :
    ((ofList paths).entries.map Prod.snd).Nodup := by
  -- equal spellings would have one normal form, and so one key
  refine List.Nodup.of_map Path.normalize ?_
  rw [map_normalize_entries]
  exact (ofList paths).nodup

/-- No two entries have the same spelling, so none is lost in the set. -/
theorem spellings_perm (paths : List String) :
    (ofList paths).spellings.Perm ((ofList paths).entries.map Prod.snd) := by
  rw [spellings, eraseDups_of_nodup (nodup_spellings_entries paths)]
  exact List.mergeSort_perm _ _

theorem mem_spellings_iff : s ∈ (ofList paths).spellings ↔
    ∃ path, IsLatest paths path ∧ s = trim path := by
  rw [(spellings_perm paths).mem_iff, List.mem_map]
  constructor
  · rintro ⟨e, member, rfl⟩
    obtain ⟨path, latest, rfl⟩ := mem_ofList_entries.mp member
    exact ⟨path, latest, rfl⟩
  · rintro ⟨path, latest, rfl⟩
    exact ⟨_, mem_ofList_entries.mpr ⟨path, latest, rfl⟩, rfl⟩

theorem length_spellings (paths : List String) :
    (ofList paths).spellings.length = (ofList paths).size := by
  rw [(spellings_perm paths).length_eq, List.length_map, size]

/-- The spellings stand in their order, each of them once. -/
theorem spellings_ascending (paths : List String) :
    (ofList paths).spellings.Pairwise (· < ·) := by
  have isLE_iff : ∀ a b : String, (compare a b).isLE = true ↔ a ≤ b := fun _ _ =>
    Ordering.isLE_iff_ne_gt.trans compare_le_iff_le
  have ordered : (ofList paths).spellings.Pairwise (· ≤ ·) := by
    refine (List.pairwise_mergeSort ?_ ?_ _).imp (isLE_iff _ _).mp
    · intro a b c
      simp only [isLE_iff]
      exact le_trans
    · intro a b
      simp only [Bool.or_eq_true, isLE_iff]
      exact le_total a b
  have distinct : (ofList paths).spellings.Nodup :=
    (spellings_perm paths).nodup_iff.mpr (nodup_spellings_entries paths)
  exact (ordered.and distinct).imp fun h => lt_of_le_of_ne h.1 h.2

/-- Different spellings are of different paths. -/
theorem nodup_map_normalize_spellings (paths : List String) :
    ((ofList paths).spellings.map Path.normalize).Nodup := by
  rw [((spellings_perm paths).map Path.normalize).nodup_iff, map_normalize_entries]
  exact (ofList paths).nodup

/-- Every path of the list has a spelling. -/
theorem exists_spelling (member : path ∈ paths) :
    ∃ s ∈ (ofList paths).spellings, Path.normalize s = Path.normalize path := by
  have allowed : (ofList paths).allows path = true := allows_ofList_iff.mpr ⟨path, member, rfl⟩
  obtain ⟨e, stored, same⟩ := List.any_eq_true.mp allowed
  refine ⟨e.2, (spellings_perm paths).mem_iff.mpr (List.mem_map_of_mem stored), ?_⟩
  rw [normalize_spelling stored, eq_of_beq same]

/-- Every spelling is that of a path of the list. -/
theorem exists_of_mem_spellings (member : s ∈ (ofList paths).spellings) :
    ∃ path ∈ paths, Path.normalize path = Path.normalize s := by
  obtain ⟨path, latest, rfl⟩ := mem_spellings_iff.mp member
  exact ⟨path, latest.mem, (Path.normalize_trim path).symm⟩

/-- The size is the number of different normal forms in the list. -/
theorem size_ofList (paths : List String) :
    (ofList paths).size = (paths.map Path.normalize).toFinset.card := by
  have forms : (paths.map Path.normalize).toFinset =
      ((ofList paths).spellings.map Path.normalize).toFinset := by
    ext form
    simp only [List.mem_toFinset, List.mem_map]
    constructor
    · rintro ⟨path, member, rfl⟩
      exact exists_spelling member
    · rintro ⟨s, member, rfl⟩
      exact exists_of_mem_spellings member
  rw [forms, List.toFinset_card_of_nodup (nodup_map_normalize_spellings paths), List.length_map,
    length_spellings]

/-! ## The whitelist of the spellings -/

theorem allows_ofList_spellings (paths : List String) (q : String) :
    (ofList (ofList paths).spellings).allows q = (ofList paths).allows q := by
  rw [Bool.eq_iff_iff, allows_ofList_iff, allows_ofList_iff]
  constructor
  · rintro ⟨s, member, same⟩
    obtain ⟨path, listed, form⟩ := exists_of_mem_spellings member
    exact ⟨path, listed, same.trans form.symm⟩
  · rintro ⟨path, listed, same⟩
    obtain ⟨s, member, form⟩ := exists_spelling listed
    exact ⟨s, member, same.trans form.symm⟩

/-- Among the spellings each is the latest, and they are trimmed already. Since both
lists are in order, they are the same. -/
theorem spellings_ofList_spellings (paths : List String) :
    (ofList (ofList paths).spellings).spellings = (ofList paths).spellings := by
  refine List.Pairwise.eq_of_mem_iff (spellings_ascending _) (spellings_ascending paths) ?_
  intro s
  rw [mem_spellings_iff]
  simp only [isLatest_iff_mem (nodup_map_normalize_spellings paths)]
  have trimmed : ∀ s ∈ (ofList paths).spellings, trim s = s := by
    intro s member
    obtain ⟨path, -, rfl⟩ := mem_spellings_iff.mp member
    exact trim_trim path
  constructor
  · rintro ⟨s, member, rfl⟩
    rwa [trimmed s member]
  · intro member
    exact ⟨s, member, (trimmed s member).symm⟩

theorem size_ofList_spellings (paths : List String) :
    (ofList (ofList paths).spellings).size = (ofList paths).size := by
  rw [← length_spellings, spellings_ofList_spellings, length_spellings]

/-- The whitelist of a list of paths allows the spellings of these paths. Its own
spellings are as many as the normal forms in the list; each is the latest of the
spellings of its path without the padding, and is allowed. They make the same
whitelist again. -/
theorem ofList_representation (paths : List String) :
    (∀ q, (ofList paths).allows q = true ↔
      ∃ path ∈ paths, Path.normalize path = Path.normalize q) ∧
    ((ofList paths).spellings.length = (ofList paths).size ∧
      (ofList paths).size = (paths.map Path.normalize).toFinset.card ∧
      (ofList paths).spellings.Pairwise (· < ·)) ∧
    ((∀ s, s ∈ (ofList paths).spellings ↔ ∃ path, IsLatest paths path ∧ s = trim path) ∧
      (∀ path ∈ paths,
        ∃! s, s ∈ (ofList paths).spellings ∧ Path.normalize s = Path.normalize path) ∧
      ∀ s ∈ (ofList paths).spellings, (ofList paths).allows s = true) ∧
    ((∀ q, (ofList (ofList paths).spellings).allows q = (ofList paths).allows q) ∧
      (ofList (ofList paths).spellings).size = (ofList paths).size ∧
      (ofList (ofList paths).spellings).spellings = (ofList paths).spellings) := by
  refine ⟨?members, ⟨length_spellings paths, size_ofList paths, spellings_ascending paths⟩,
    ⟨fun s => mem_spellings_iff, ?one, ?allowed⟩, allows_ofList_spellings paths,
    size_ofList_spellings paths, spellings_ofList_spellings paths⟩
  case members =>
    intro q
    simp only [allows_ofList_iff, eq_comm (a := Path.normalize q)]
  case one =>
    intro path listed
    obtain ⟨s, member, form⟩ := exists_spelling listed
    refine ⟨s, ⟨member, form⟩, ?_⟩
    rintro s' ⟨member', form'⟩
    exact List.inj_on_of_nodup_map (nodup_map_normalize_spellings paths) member' member
      (form'.trans form.symm)
  case allowed =>
    intro s member
    obtain ⟨path, listed, form⟩ := exists_of_mem_spellings member
    exact allows_ofList_iff.mpr ⟨path, listed, form.symm⟩

/-- The later spelling of the name is kept, the blank path is one of the paths, and
blanks within a segment make another path. -/
theorem ofList_representation_padded :
    let w := ofList [" Name", "age", "", "NAME\t", "a ge"]
    w.allows "nAmE " = true ∧ w.size = 4 ∧ "NAME" ∈ w.spellings ∧ "Name" ∉ w.spellings ∧
      (ofList w.spellings).spellings = w.spellings := by
  intro w
  obtain ⟨members, ⟨-, size, -⟩, ⟨latest, single, -⟩, -, -, same⟩ :=
    ofList_representation [" Name", "age", "", "NAME\t", "a ge"]
  have kept : "NAME" ∈ w.spellings := by
    refine (latest "NAME").mpr ⟨"NAME\t", ⟨[" Name", "age", ""], ["a ge"], rfl, ?_⟩, by decide⟩
    exact List.forall_mem_singleton.mpr (by decide +kernel)
  refine ⟨(members "nAmE ").mpr ⟨" Name", by simp, by decide +kernel⟩, ?_, kept, ?_, same⟩
  · rw [size]
    decide +kernel
  · intro earlier
    obtain ⟨s, -, only⟩ := single " Name" (by simp)
    have clash := (only "Name" ⟨earlier, by decide +kernel⟩).trans
      (only "NAME" ⟨kept, by decide +kernel⟩).symm
    exact absurd clash (by decide)

end Whitelist

end RecordFilter
