import Typescribe.Proofs.Schema.Validation
import Typescribe.Proofs.Step
import Typescribe.Snapshot.Options

/-!
This module contains the definitions of fields as functions of what is said about them. The records
that are written on the way are left out: no definition depends on them.
-/

namespace Typescribe.Snapshot

variable {σ : Type}

/-- The options that a value stands for: those of a mapping, or of the JSON text of one. -/
def optionsOf (options : Value) : Except Cause (List (Value × Value)) :=
  if !options.isTruthy then .ok []
  else
    match options with
    | .text s =>
      match readJson s with
      | .ok value => .ok (pairsOf value)
      | .error .malformedJson => .ok []
      | .error cause => .error cause
    | value => .ok (pairsOf value)

/-- The raw choices among the options of a field. -/
def rawChoices (options : List (Value × Value)) : List Value :=
  match (Value.orElse (Value.lookup "choices" options) (.list [])).opened with
  | .list items => items
  | _ => []

def definitionOf (collection field interface options : Value) : Except Cause FieldDefinition := do
  let options ← optionsOf options
  let choices ← choices (rawChoices options)
  checkDefinition collection field interface choices

theorem isPlain_orFail {α : Type} (x : Except Cause α) :
    Step.IsPlain (orFail x : Step σ α) (x.mapError .foreign) :=
  Step.IsPlain.ofExcept _

theorem isPlain_parseOptions (options : Value) :
    Step.IsPlain (parseOptions options : Step σ _) ((optionsOf options).mapError .foreign) := by
  unfold parseOptions optionsOf
  split
  · exact .pure []
  · cases options with
    | text s =>
      simp only
      rcases readJson s with cause | value
      · cases cause with
        | malformedJson => exact (Step.IsPlain.write _).bind_ok (.pure [])
        | _ => exact .fail _
      · exact .pure (pairsOf value)
    | _ => exact .pure _

theorem isPlain_choiceItems (collection field : Value) (options : List (Value × Value)) :
    Step.IsPlain (choiceItems collection field options : Step σ _) (.ok (rawChoices options)) := by
  unfold choiceItems rawChoices
  cases (Value.orElse (Value.lookup "choices" options) (.list [])).opened with
  | list items => exact .pure items
  | _ => exact (Step.IsPlain.write _).bind_ok (.pure [])

theorem isPlain_buildDefinition (collection field interface options : Value) :
    Step.IsPlain (buildDefinition collection field interface options : Step σ _)
      ((definitionOf collection field interface options).mapError .foreign) := by
  unfold buildDefinition definitionOf
  simp only [mapError_bind]
  apply (isPlain_parseOptions options).bind
  intro options _
  apply (isPlain_choiceItems collection field options).bind_ok
  apply (isPlain_orFail (choices (rawChoices options))).bind
  intro choices _
  exact isPlain_orFail (checkDefinition collection field interface choices)

theorem of_checkDefinition {collection field interface : Value} {choices : List FieldChoice}
    {d : FieldDefinition} (h : checkDefinition collection field interface choices = .ok d) :
    Checked.asText collection = .valid d.collection ∧ Checked.asText field = .valid d.field
      ∧ d.choices = choices := by
  unfold checkDefinition at h
  obtain ⟨checked, check, h⟩ := bind_eq_ok.mp h
  cases h
  rw [Checked.result_eq_ok] at check
  simp only [FieldDefinition.check, Checked.asModel, Checked.app_eq_valid,
    Checked.map_eq_valid, Checked.required_eq_valid] at check
  obtain ⟨_, _, ⟨_, _, ⟨_, _, ⟨_, ⟨_, first, readCollection⟩, rfl⟩, ⟨_, second, readField⟩, rfl⟩, -, rfl⟩,
    -, rfl⟩ := check
  cases first
  cases second
  exact ⟨readCollection, readField, rfl⟩

theorem of_definitionOf {collection field interface options : Value} {d : FieldDefinition}
    (h : definitionOf collection field interface options = .ok d) :
    Checked.asText collection = .valid d.collection ∧ Checked.asText field = .valid d.field := by
  obtain ⟨_, -, h⟩ := bind_eq_ok.mp h
  obtain ⟨_, -, h⟩ := bind_eq_ok.mp h
  obtain ⟨collection, field, -⟩ := of_checkDefinition h
  exact ⟨collection, field⟩

theorem choices_definitionOf_null {collection field interface : Value} {d : FieldDefinition}
    (h : definitionOf collection field interface .null = .ok d) : d.choices = [] := by
  obtain ⟨_, options, h⟩ := bind_eq_ok.mp h
  cases options
  obtain ⟨_, choices, h⟩ := bind_eq_ok.mp h
  cases choices
  exact (of_checkDefinition h).2.2

end Typescribe.Snapshot
