import RecordFilter.Schema

/-!
# Whitelists

The paths on which a filter may be made. As in the look-up of fields, only the
normal form of a path counts; of several spellings the last one is kept.
-/

namespace RecordFilter

open RecordFilter.Text

/-- Allowed paths: the spelling for each normal form. -/
structure Whitelist where
  entries : List (String × String)
  nodup : (entries.map Prod.fst).Nodup

namespace Whitelist

/-- The whitelist that allows nothing. -/
def empty : Whitelist :=
  ⟨[], .nil⟩

/-- Allows a path. Its spelling replaces an earlier one. -/
def insert (w : Whitelist) (path : String) : Whitelist where
  entries := w.entries.filter (·.1 ≠ Path.normalize path) ++ [(Path.normalize path, trim path)]
  nodup := by
    have kept := (List.filter_sublist (p := (·.1 ≠ Path.normalize path)) (l := w.entries)).map
      Prod.fst |>.nodup w.nodup
    simp only [List.map_append, List.map_cons, List.map_nil]
    refine List.nodup_append.mpr ⟨kept, by simp, ?_⟩
    rintro a ha b hb rfl
    obtain ⟨entry, member, rfl⟩ := List.mem_map.mp ha
    simp_all

/-- Allows the paths of a list. -/
def ofList (paths : List String) : Whitelist :=
  paths.foldl insert empty

/-- Allows every field of a schema. -/
def ofSchema {T : Type} (schema : Schema T) : Whitelist :=
  ofList schema.paths

/-- The number of allowed paths. -/
def size (w : Whitelist) : Nat :=
  w.entries.length

/-- Whether a path is allowed. -/
def allows (w : Whitelist) (path : String) : Bool :=
  w.entries.any (·.1 == Path.normalize path)

/-- The set of the spellings of the allowed paths, in the order of their code
points. -/
def spellings (w : Whitelist) : List String :=
  (w.entries.map Prod.snd).eraseDups.mergeSort fun a b => (compare a b).isLE

end Whitelist

end RecordFilter
