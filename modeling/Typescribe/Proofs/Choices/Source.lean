import Typescribe.Choices.Source
import Typescribe.Proofs.Ordered
import Typescribe.Proofs.Step

/-!
This module contains the runs of lookups that treat a failing source as one without choices: they
always end well. It also contains what the table of known definitions holds.
-/

namespace Typescribe.ChoiceSource

variable {σ : Type}

/-- What is left of an answer when a failure counts as no choices. -/
def safeAnswer : Except Fault (Option FieldDefinition) → Option FieldDefinition
  | .ok definition => definition
  | .error _ => none

theorem exists_yields_safeLookup_eq (source : ChoiceSource σ) (collection field : String)
    (s : Session σ) :
    ∃ t, Step.Yields (source.safeLookup collection field) s
      (safeAnswer ((source.lookup collection field).run.run s).1) t := by
  unfold safeLookup Step.Yields
  rw [Step.run_bind, Step.run_attempt]
  rcases (source.lookup collection field).run.run s with ⟨fault | definition, t⟩
  · exact ⟨_, rfl⟩
  · exact ⟨t, rfl⟩

theorem state_run_safeLookup (source : ChoiceSource σ) (collection field : String)
    (s : Session σ) :
    ((source.safeLookup collection field).run.run s).2.state
      = ((source.lookup collection field).run.run s).2.state := by
  unfold safeLookup
  rw [Step.run_bind, Step.run_attempt]
  rcases (source.lookup collection field).run.run s with ⟨fault | definition, t⟩
  · rfl
  · rfl

theorem exists_yields_safeLookup (source : ChoiceSource σ) (collection field : String)
    (s : Session σ) :
    ∃ definition t, Step.Yields (source.safeLookup collection field) s definition t :=
  ⟨_, source.exists_yields_safeLookup_eq collection field s⟩

theorem find?_reverse_eq_getLast?_filter {α : Type} (p : α → Bool) (as : List α) :
    as.reverse.find? p = (as.filter p).getLast? := by
  rw [← List.head?_filter, List.filter_reverse, List.head?_reverse]

/-- The last definition of a field is the one that is found. -/
theorem get?_table (definitions : List FieldDefinition) (collection field : String) :
    Ordered.get? (collection, field) (table definitions)
      = (definitions.filter fun d => (d.collection, d.field) = (collection, field)).getLast? := by
  rw [table, Ordered.ofList_map_eq_putAll (fun d : FieldDefinition => (d.collection, d.field)),
    Ordered.get?_putAll, Ordered.get?, Option.or_none, Option.map_id',
    find?_reverse_eq_getLast?_filter]

end Typescribe.ChoiceSource
