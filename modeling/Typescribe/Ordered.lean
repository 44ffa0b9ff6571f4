/-!
This module contains maps that keep their entries in the order of insertion, as lists of pairs.
-/

namespace Typescribe.Ordered

variable {κ ν : Type} [DecidableEq κ]

def get? (key : κ) : List (κ × ν) → Option ν
  | [] => none
  | (k, v) :: rest => if k = key then some v else get? key rest

/-- The map with a value at a key: in the place of the entry with that key, or else at the end. -/
def put (key : κ) (value : ν) : List (κ × ν) → List (κ × ν)
  | [] => [(key, value)]
  | (k, v) :: rest => if k = key then (k, value) :: rest else (k, v) :: put key value rest

def ofList (entries : List (κ × ν)) : List (κ × ν) :=
  entries.foldl (fun map (key, value) => put key value map) []

theorem get?_put (key other : κ) (value : ν) (map : List (κ × ν)) :
    get? other (put key value map) = if key = other then some value else get? other map := by
  induction map with
  | nil => rfl
  | cons entry rest ih =>
    obtain ⟨k, v⟩ := entry
    by_cases h : k = key
    · subst h
      by_cases ho : k = other <;> simp [put, get?, ho]
    · by_cases ho : k = other
      · subst ho
        simp [put, get?, h, Ne.symm h]
      · simp [put, get?, h, ho, ih]

theorem map_fst_put (key : κ) (value : ν) (map : List (κ × ν)) :
    (put key value map).map (·.1)
      = if key ∈ map.map (·.1) then map.map (·.1) else map.map (·.1) ++ [key] := by
  induction map with
  | nil => rfl
  | cons entry rest ih =>
    obtain ⟨k, v⟩ := entry
    by_cases h : k = key
    · simp [put, h]
    · simp only [put, h, if_false, List.map_cons, ih, List.mem_cons, Ne.symm h, false_or]
      split <;> simp

end Typescribe.Ordered
