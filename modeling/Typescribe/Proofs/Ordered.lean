import Mathlib.Data.List.Induction
import Typescribe.Ordered

/-!
This module contains lemmas about the entries of maps that keep the order of insertion: which there
are, in which order, and what stands at a key after many insertions.
-/

namespace Typescribe.Ordered

variable {α κ ν : Type} [DecidableEq κ]

theorem mem_of_get?_eq_some {key : κ} {value : ν} {map : List (κ × ν)}
    (h : get? key map = some value) : (key, value) ∈ map := by
  induction map with
  | nil => cases h
  | cons entry map ih =>
    unfold get? at h
    split at h
    · next same =>
      cases h
      exact same ▸ List.mem_cons_self
    · exact List.mem_cons_of_mem _ (ih h)

theorem get?_of_mem {entry : κ × ν} {map : List (κ × ν)} (nodup : (map.map (·.1)).Nodup)
    (h : entry ∈ map) : get? entry.1 map = some entry.2 := by
  induction map with
  | nil => cases h
  | cons first map ih =>
    obtain ⟨fresh, nodup⟩ := List.nodup_cons.mp nodup
    unfold get?
    cases List.mem_cons.mp h with
    | inl same => rw [same, if_pos rfl]
    | inr h =>
      have other : first.1 ≠ entry.1 := by
        intro same
        exact fresh (List.mem_map.mpr ⟨entry, h, same.symm⟩)
      rw [if_neg other]
      exact ih nodup h

theorem isSome_get?_iff {key : κ} {map : List (κ × ν)} :
    (get? key map).isSome ↔ key ∈ map.map (·.1) := by
  induction map with
  | nil => simp [get?]
  | cons entry map ih =>
    unfold get?
    split
    · next same => simp [same]
    · next other => rw [ih, List.map_cons, List.mem_cons, or_iff_right (Ne.symm other)]

theorem get?_filter (kept : κ → Bool) (key : κ) (map : List (κ × ν)) :
    get? key (map.filter fun entry => kept entry.1) = if kept key then get? key map else none := by
  induction map with
  | nil => simp [get?]
  | cons entry map ih =>
    obtain ⟨k, value⟩ := entry
    by_cases same : k = key
    · subst same
      by_cases here : kept k <;> simp [get?, here, ih]
    · by_cases here : kept k <;> simp [get?, here, same, ih]

/-- The map with values for all items of a list, the first item first. -/
def putAll (key : α → κ) (value : α → ν) (items : List α) (map : List (κ × ν)) : List (κ × ν) :=
  items.foldl (fun map a => put (key a) (value a) map) map

theorem putAll_concat (key : α → κ) (value : α → ν) (items : List α) (a : α)
    (map : List (κ × ν)) :
    putAll key value (items ++ [a]) map = put (key a) (value a) (putAll key value items map) := by
  rw [putAll, List.foldl_append]
  rfl

theorem get?_putAll (key : α → κ) (value : α → ν) (items : List α) (map : List (κ × ν)) (k : κ) :
    get? k (putAll key value items map)
      = ((items.reverse.find? (key · = k)).map value).or (get? k map) := by
  induction items using List.reverseRecOn with
  | nil => rfl
  | append_singleton items a ih =>
    rw [putAll_concat, get?_put, List.reverse_concat, List.find?_cons]
    by_cases h : key a = k
    · simp [h]
    · simp [h, ih]

theorem eraseDups_concat (keys : List κ) (key : κ) :
    (keys ++ [key]).eraseDups
      = if key ∈ keys then keys.eraseDups else keys.eraseDups ++ [key] := by
  rw [List.eraseDups_append]
  split
  · next h => simp [List.removeAll, h]
  · next h => simp [List.removeAll, h, List.eraseDups_cons]

omit [DecidableEq κ] in
theorem nodup_concat {keys : List κ} {key : κ} :
    (keys ++ [key]).Nodup ↔ key ∉ keys ∧ keys.Nodup := by
  rw [List.perm_append_comm.nodup_iff, List.singleton_append, List.nodup_cons]

theorem nodup_eraseDups (keys : List κ) : keys.eraseDups.Nodup := by
  induction keys using List.reverseRecOn with
  | nil => exact .nil
  | append_singleton keys key ih =>
    rw [eraseDups_concat]
    split
    · exact ih
    · next h => exact nodup_concat.mpr ⟨fun old => h (List.mem_eraseDups.mp old), ih⟩

theorem eraseDups_map_eraseDups {κ' : Type} [DecidableEq κ'] (f : κ → κ') (keys : List κ) :
    (keys.eraseDups.map f).eraseDups = (keys.map f).eraseDups := by
  induction keys using List.reverseRecOn with
  | nil => rfl
  | append_singleton keys key ih =>
    rw [List.map_append, List.map_singleton, eraseDups_concat, eraseDups_concat]
    split
    · next h => rw [ih, if_pos (List.mem_map_of_mem h)]
    · have same : f key ∈ keys.eraseDups.map f ↔ f key ∈ keys.map f := by
        simp only [List.mem_map, List.mem_eraseDups]
      rw [List.map_append, List.map_singleton, eraseDups_concat, ih]
      simp only [same]

theorem map_fst_putAll (key : α → κ) (value : α → ν) (items : List α) :
    (putAll key value items []).map (·.1) = (items.map key).eraseDups := by
  induction items using List.reverseRecOn with
  | nil => rfl
  | append_singleton items a ih =>
    rw [putAll_concat, map_fst_put, ih, List.map_append, List.map_singleton, eraseDups_concat]
    simp only [List.mem_eraseDups]

theorem nodup_putAll (key : α → κ) (value : α → ν) (items : List α) :
    ((putAll key value items []).map (·.1)).Nodup := by
  rw [map_fst_putAll]
  exact nodup_eraseDups _

theorem mem_putAll {key : α → κ} {value : α → ν} {items : List α} {entry : κ × ν}
    (h : entry ∈ putAll key value items []) : ∃ a ∈ items, entry = (key a, value a) := by
  -- Without two entries at one key, an entry says what stands at its key.
  have nodup : ((putAll key value items []).map (·.1)).Nodup := nodup_putAll key value items
  have found := get?_of_mem nodup h
  rw [get?_putAll, get?, Option.or_none, Option.map_eq_some_iff] at found
  obtain ⟨a, ha, same⟩ := found
  have isKey : key a = entry.1 := by simpa using List.find?_some ha
  exact ⟨a, List.mem_reverse.mp (List.mem_of_find?_eq_some ha), by rw [isKey, same]⟩

theorem nodup_put {map : List (κ × ν)} (h : (map.map (·.1)).Nodup) (key : κ) (value : ν) :
    ((put key value map).map (·.1)).Nodup := by
  rw [map_fst_put]
  split
  · exact h
  · next fresh => exact nodup_concat.mpr ⟨fresh, h⟩

theorem get?_eq_some_iff {map : List (κ × ν)} (nodup : (map.map (·.1)).Nodup) {key : κ}
    {value : ν} : get? key map = some value ↔ (key, value) ∈ map :=
  ⟨mem_of_get?_eq_some, get?_of_mem nodup⟩

theorem get?_eq_of_perm {map other : List (κ × ν)} (h : map.Perm other)
    (nodup : (map.map (·.1)).Nodup) (key : κ) : get? key other = get? key map := by
  apply Option.ext
  intro value
  rw [get?_eq_some_iff nodup, get?_eq_some_iff ((h.map _).nodup_iff.mp nodup), h.mem_iff]

theorem put_of_notMem {key : κ} {map : List (κ × ν)} (h : key ∉ map.map (·.1)) (value : ν) :
    put key value map = map ++ [(key, value)] := by
  induction map with
  | nil => rfl
  | cons entry map ih =>
    rw [List.map_cons, List.mem_cons, not_or] at h
    rw [put, if_neg (Ne.symm h.1), ih h.2, List.cons_append]

theorem ofList_of_nodup {entries : List (κ × ν)} (h : (entries.map (·.1)).Nodup) :
    ofList entries = entries := by
  induction entries using List.reverseRecOn with
  | nil => rfl
  | append_singleton entries entry ih =>
    rw [List.map_append, List.map_singleton, nodup_concat] at h
    rw [ofList, List.foldl_append, ← ofList, ih h.2]
    exact put_of_notMem h.1 entry.2

theorem ofList_map_eq_putAll (key : α → κ) (value : α → ν) (items : List α) :
    ofList (items.map fun a => (key a, value a)) = putAll key value items [] :=
  List.foldl_map

end Typescribe.Ordered
