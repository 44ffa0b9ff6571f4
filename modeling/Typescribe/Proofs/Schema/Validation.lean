import Typescribe.Schema.Validation

/-!
This module contains the checked readings that succeed, taken apart along their members.
-/

namespace Typescribe.Checked

variable {α β : Type} {a : α} {b : β}

theorem map_eq_valid {f : α → β} {x : Checked α} :
    x.map f = .valid b ↔ ∃ a, x = .valid a ∧ f a = b := by
  cases x <;> simp [map]

theorem app_eq_valid {f : Checked (α → β)} {x : Checked α} :
    f.app x = .valid b ↔ ∃ g a, f = .valid g ∧ x = .valid a ∧ g a = b := by
  cases f <;> cases x <;> simp [app]

theorem under_eq_valid {step : String} {x : Checked α} : x.under step = .valid a ↔ x = .valid a := by
  cases x <;> simp [under]

theorem result_eq_ok {model : String} {x : Checked α} :
    x.result model = .ok a ↔ x = .valid a := by
  cases x <;> simp [result]

theorem result_eq_error {model : String} {x : Checked α} {cause : Cause}
    (h : x.result model = .error cause) : ∃ issues, cause = .invalid model issues := by
  cases x with
  | valid a => cases h
  | refused issues =>
    cases h
    exact ⟨issues, rfl⟩

theorem required_eq_valid {name : String} {read : Value → Checked α}
    {pairs : List (Value × Value)} :
    required name read pairs = .valid a
      ↔ ∃ value, Value.lookup name pairs = some value ∧ read value = .valid a := by
  unfold required
  cases Value.lookup name pairs with
  | none => simp
  | some value => simp [under_eq_valid]

theorem withDefault_eq_valid {name : String} {default : α} {read : Value → Checked α}
    {pairs : List (Value × Value)} {value : Value} (given : Value.lookup name pairs = some value) :
    withDefault name default read pairs = .valid a ↔ read value = .valid a := by
  rw [withDefault, given]
  exact under_eq_valid

/-- Items that are read one by one are read where they are listed. -/
theorem asList_map {read : Value → Checked α} {write : α → Value}
    (h : ∀ a, read (write a) = .valid a) (items : List α) :
    asList read (.list (items.map write)) = .valid items := by
  have each (entries : List (String × α)) :
      all read (entries.map fun entry => (entry.1, write entry.2)) = .valid entries := by
    induction entries with
    | nil => rfl
    | cons entry entries ih =>
      rw [List.map_cons, all, ih, h]
      rfl
  have entries := each (items.zipIdx.map fun (a, i) => (toString i, a))
  rw [List.map_map] at entries
  rw [asList, List.zipIdx_map, List.map_map]
  refine (congrArg _ entries).trans ?_
  rw [map, List.map_map]
  exact congrArg _ (List.zipIdx_map_fst 0 items)

end Typescribe.Checked
