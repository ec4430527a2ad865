import Mathlib.Data.List.Forall2
import RecordFilter.Results

/-!
# Lists of results

Computations that may fail, one after the other. A list of them succeeds when
each one does; otherwise the failure of the leftmost one is the failure of all.
-/

namespace RecordFilter.Results

variable {ε α β γ : Type}

/-! ## Lists that correspond -/

/-- What relates three lists step by step relates the first to the last. -/
theorem forall₂_comp {r : α → β → Prop} {s : β → γ → Prop} {xs : List α} {ys : List β}
    {zs : List γ} (first : List.Forall₂ r xs ys) (second : List.Forall₂ s ys zs) :
    List.Forall₂ (fun x z => ∃ y, r x y ∧ s y z) xs zs := by
  induction first generalizing zs with
  | nil =>
      cases second
      exact .nil
  | cons related _ ih =>
      cases second with
      | cons related' rest => exact .cons ⟨_, related, related'⟩ (ih rest)

/-- What relates two lists in two steps has a list in between. -/
theorem exists_forall₂_of_comp {r : α → β → Prop} {s : β → γ → Prop} {xs : List α} {zs : List γ}
    (h : List.Forall₂ (fun x z => ∃ y, r x y ∧ s y z) xs zs) :
    ∃ ys, List.Forall₂ r xs ys ∧ List.Forall₂ s ys zs := by
  induction h with
  | nil => exact ⟨[], .nil, .nil⟩
  | cons related _ ih =>
      obtain ⟨y, first, second⟩ := related
      obtain ⟨ys, firsts, seconds⟩ := ih
      exact ⟨y :: ys, .cons first firsts, .cons second seconds⟩

/-- A test of all members on one side is a statement on the other side. -/
theorem all_iff_of_forall₂ {r : α → β → Prop} {xs : List α} {ys : List β} {test : β → Bool}
    {P : α → Prop} (h : List.Forall₂ r xs ys) (agree : ∀ x y, r x y → (test y = true ↔ P x)) :
    ys.all test = true ↔ ∀ x ∈ xs, P x := by
  induction h with
  | nil => simp
  | cons related _ ih =>
      rw [List.all_cons, Bool.and_eq_true, List.forall_mem_cons, agree _ _ related, ih]

/-- Each member of the first list has a partner. -/
theorem exists_of_forall₂ {r : α → β → Prop} {xs : List α} {ys : List β}
    (h : List.Forall₂ r xs ys) : ∀ x ∈ xs, ∃ y ∈ ys, r x y := by
  induction h with
  | nil => simp
  | cons related _ ih =>
      intro x hx
      rcases List.mem_cons.mp hx with rfl | hx
      · exact ⟨_, List.mem_cons_self, related⟩
      · obtain ⟨y, hy, related'⟩ := ih x hx
        exact ⟨y, List.mem_cons_of_mem _ hy, related'⟩

/-! ## A list of computations -/

/-- A list succeeds exactly when all of it does. -/
theorem mapM_eq_ok_iff {f : α → Except ε β} {xs : List α} {ys : List β} :
    xs.mapM f = .ok ys ↔ List.Forall₂ (fun x y => f x = .ok y) xs ys := by
  induction xs generalizing ys with
  | nil =>
      rw [List.forall₂_nil_left_iff]
      exact ⟨fun h => (Except.ok.inj h).symm, fun h => h ▸ rfl⟩
  | cons x rest ih =>
      rw [mapM_cons, bind_eq_ok_iff, List.forall₂_cons_left_iff]
      refine exists_congr fun y => ?_
      rw [map_eq_ok_iff]
      constructor
      · rintro ⟨first, ys', others, rfl⟩
        exact ⟨ys', first, ih.mp others, rfl⟩
      · rintro ⟨ys', first, others, rfl⟩
        exact ⟨first, ys', ih.mpr others, rfl⟩

/-- A list succeeds if each of its computations does. -/
theorem exists_mapM_eq_ok {f : α → Except ε β} {xs : List α}
    (h : ∀ x ∈ xs, ∃ y, f x = .ok y) : ∃ ys, xs.mapM f = .ok ys := by
  induction xs with
  | nil => exact ⟨[], rfl⟩
  | cons x rest ih =>
      obtain ⟨y, first⟩ := h x List.mem_cons_self
      obtain ⟨ys, others⟩ := ih fun z hz => h z (List.mem_cons_of_mem x hz)
      exact ⟨y :: ys, by rw [mapM_cons, first, others]; rfl⟩

/-- Two lists, one after the other, succeed when both do. -/
theorem mapM_append_eq_ok_iff {f : α → Except ε β} {xs ys : List α} {zs : List β} :
    (xs ++ ys).mapM f = .ok zs ↔
      ∃ as bs, xs.mapM f = .ok as ∧ ys.mapM f = .ok bs ∧ as ++ bs = zs := by
  induction xs generalizing zs with
  | nil => simp [pure, Except.pure]
  | cons x rest ih =>
      rw [List.cons_append, mapM_cons, mapM_cons]
      simp only [bind_eq_ok_iff, map_eq_ok_iff, ih]
      constructor
      · rintro ⟨z, first, zs, ⟨as, bs, left, right, rfl⟩, rfl⟩
        exact ⟨z :: as, bs, ⟨z, first, as, left, rfl⟩, right, rfl⟩
      · rintro ⟨as, bs, ⟨z, first, as, left, rfl⟩, right, rfl⟩
        exact ⟨z, first, as ++ bs, ⟨as, bs, left, right, rfl⟩, rfl⟩

/-- The results of a list are those of its members. -/
theorem mem_of_mapM_eq_ok {f : α → Except ε β} {xs : List α} {ys : List β}
    (h : xs.mapM f = .ok ys) {y : β} : y ∈ ys ↔ ∃ x ∈ xs, f x = .ok y := by
  rw [mapM_eq_ok_iff] at h
  constructor
  · intro member
    exact exists_of_forall₂ h.flip y member
  · rintro ⟨x, member, result⟩
    obtain ⟨y', member', result'⟩ := exists_of_forall₂ h x member
    obtain rfl := Except.ok.inj (result.symm.trans result')
    exact member'

/-- Of the members of a list that fail, the leftmost one fails in this way. -/
def Leftmost (fails : α → ε → Prop) (xs : List α) (e : ε) : Prop :=
  ∃ before x after, xs = before ++ x :: after ∧ (∀ y ∈ before, ∀ e', ¬ fails y e') ∧ fails x e

theorem leftmost_nil_iff {fails : α → ε → Prop} {e : ε} : Leftmost fails [] e ↔ False := by
  simp [Leftmost]

/-- The first member fails, or it does not and one behind it does. -/
theorem leftmost_cons_iff {fails : α → ε → Prop} {x : α} {xs : List α} {e : ε} :
    Leftmost fails (x :: xs) e ↔
      fails x e ∨ (∀ e', ¬ fails x e') ∧ Leftmost fails xs e := by
  constructor
  · rintro ⟨before, y, after, split, fine, failed⟩
    cases before with
    | nil =>
        obtain ⟨rfl, rfl⟩ := List.cons.inj split
        exact .inl failed
    | cons z before =>
        obtain ⟨rfl, rfl⟩ := List.cons.inj split
        refine .inr ⟨fine x List.mem_cons_self, before, y, after, rfl, ?_, failed⟩
        exact fun w member => fine w (List.mem_cons_of_mem x member)
  · rintro (failed | ⟨first, before, y, after, rfl, fine, failed⟩)
    · exact ⟨[], x, xs, rfl, by simp, failed⟩
    · refine ⟨x :: before, y, after, rfl, ?_, failed⟩
      intro w member
      rcases List.mem_cons.mp member with rfl | member
      · exact first
      · exact fine w member

/-- No member fails in a list that has no leftmost failure. -/
theorem forall_not_leftmost_iff {fails : α → ε → Prop} {xs : List α} :
    (∀ e, ¬ Leftmost fails xs e) ↔ ∀ x ∈ xs, ∀ e, ¬ fails x e := by
  induction xs with
  | nil => simp [leftmost_nil_iff]
  | cons x rest ih =>
      rw [List.forall_mem_cons, ← ih]
      simp only [leftmost_cons_iff, not_or, not_and, forall_and]
      constructor
      · rintro ⟨first, others⟩
        exact ⟨first, fun e => others e first⟩
      · rintro ⟨first, others⟩
        exact ⟨first, fun e _ => others e⟩

theorem forall_ne_error_iff {x : Except ε α} : (∀ e, x ≠ .error e) ↔ ∃ a, x = .ok a := by
  cases x <;> simp

/-- What stands before the leftmost failure has succeeded, and what stands
behind it does not matter. -/
theorem mapM_eq_error_iff {f : α → Except ε β} {xs : List α} {e : ε} :
    xs.mapM f = .error e ↔ Leftmost (fun x e => f x = .error e) xs e := by
  induction xs with
  | nil => simp [leftmost_nil_iff, pure, Except.pure]
  | cons x rest ih =>
      rw [mapM_cons, bind_eq_error_iff, leftmost_cons_iff, forall_ne_error_iff, ← ih]
      simp only [map_eq_error_iff, exists_and_right]

/-- A list with a failure has a leftmost one, which is the failure of all. -/
theorem exists_mapM_eq_error {f : α → Except ε β} {xs : List α}
    (h : ∃ x ∈ xs, ∃ e, f x = .error e) : ∃ e, xs.mapM f = .error e := by
  cases all : xs.mapM f with
  | error e => exact ⟨e, rfl⟩
  | ok ys =>
      obtain ⟨x, hx, e, failed⟩ := h
      obtain ⟨y, -, fine⟩ := exists_of_forall₂ (mapM_eq_ok_iff.mp all) x hx
      rw [failed] at fine
      cases fine

/-- Only the computations at the members of the list count. -/
theorem mapM_congr {f g : α → Except ε β} {xs : List α} (h : ∀ x ∈ xs, f x = g x) :
    xs.mapM f = xs.mapM g := by
  induction xs with
  | nil => rfl
  | cons x rest ih =>
      rw [mapM_cons, mapM_cons, h x List.mem_cons_self,
        ih fun y hy => h y (List.mem_cons_of_mem x hy)]

end RecordFilter.Results
