import Typescribe.Proofs.Choices.Answers
import Typescribe.Proofs.Declaration.Generation

/-!
This module contains the resolution of a field as a function of the data model and of what is
answered about its choices, and the interfaces that come of it.
-/

namespace Typescribe.Declaration

variable {σ : Type} {config : Config} {schema : Schema} {choices : ChoiceSource σ}
  {collection : Collection} {s t : Session σ}

/-- The type of a field by its relation, if a relation decides it. -/
def relatedType? (config : Config) (schema : Schema) (collection : Collection) (field : Field) :
    Except FieldFault (Option TypeRef) :=
  if field.isAlias then aliasType? schema collection field
  else relationType? config.jsonType schema collection field

def resolutionOf (config : Config) (schema : Schema) (collection : Collection) (field : Field)
    (answer : Except Fault (Option FieldDefinition)) : Except FieldFault TypeRef :=
  match relatedType? config schema collection field with
  | .error fault => .error fault
  | .ok (some type) => .ok type
  | .ok none =>
    match enumType? (ChoiceSource.safeAnswer answer) with
    | .error unwritable =>
      .error ⟨collection.collection, field.field, .unwritableChoice unwritable⟩
    | .ok (some type) => .ok ⟨type, []⟩
    | .ok none => (fieldScalarType config.jsonType field).map fun type => ⟨type, []⟩

/-- The state after the resolution is that after a lookup, if there was one. -/
theorem exists_yields_resolutionOf (config : Config) (schema : Schema) (choices : ChoiceSource σ)
    (collection : Collection) (field : Field) (s : Session σ) :
    let asked := (choices.lookup collection.collection field.field).run.run s
    ∃ t, Step.Yields (resolveField config schema choices collection field) s
        (resolutionOf config schema collection field asked.1) t
      ∧ (t.state = s.state ∨ t.state = asked.2.state) := by
  intro asked
  unfold resolveField resolutionOf
  simp only
  rw [← relatedType?]
  rcases relatedType? config schema collection field with fault | _ | type
  · exact ⟨s, Step.yields_pure.mpr ⟨rfl, rfl⟩, .inl rfl⟩
  · simp only
    obtain ⟨u, looked⟩ := choices.exists_yields_safeLookup_eq collection.collection field.field s
    have left : u.state = asked.2.state := by
      rw [← choices.state_run_safeLookup collection.collection field.field s, looked]
    rcases found : enumType? (ChoiceSource.safeAnswer asked.1) with unwritable | _ | type
    · apply Exists.intro
      constructor
      · apply looked.bind
        rw [found]
        rfl
      · exact .inr left
    · refine ⟨u, looked.bind ?_, .inr left⟩
      rw [found]
      rfl
    · refine ⟨u, looked.bind ?_, .inr left⟩
      rw [found]
      rfl
  · exact ⟨s, Step.yields_pure.mpr ⟨rfl, rfl⟩, .inl rfl⟩

/-- A field with its resolution, when choices are answered in a fixed way. -/
def resolvedField (config : Config) (schema : Schema) (answer : ChoiceSource.Answers)
    (collection : Collection) (field : Field) : Resolved :=
  ⟨field, resolutionOf config schema collection field (answer collection.collection field.field)⟩

def resolvedOf (config : Config) (schema : Schema) (answer : ChoiceSource.Answers)
    (collection : Collection) : List Resolved :=
  collection.fields.map fun entry => resolvedField config schema answer collection entry.2

section Steady

variable {kept : σ → Prop} {answer : ChoiceSource.Answers}

theorem resolution_of_answersFrom (steady : choices.AnswersFrom kept answer) {field : Field}
    {resolution : Except FieldFault TypeRef} (start : kept s.state)
    (h : Step.Yields (resolveField config schema choices collection field) s resolution t) :
    resolution
        = resolutionOf config schema collection field (answer collection.collection field.field)
      ∧ kept t.state := by
  obtain ⟨u, resolved, left⟩ :=
    exists_yields_resolutionOf config schema choices collection field s
  rw [steady.lookup _ _ _ start] at resolved
  cases resolved.symm.trans h
  refine ⟨rfl, ?_⟩
  rcases left with left | left
  · exact left ▸ start
  · exact left ▸ steady.stays _ _ _ start

theorem resolved_of_answersFrom (steady : choices.AnswersFrom kept answer)
    {resolved : List Resolved} (start : kept s.state)
    (h : ResolvedInTurn config schema choices collection s resolved t) :
    resolved = (resolved.map (·.field)).map (resolvedField config schema answer collection)
      ∧ kept t.state := by
  induction h with
  | nil => exact ⟨rfl, start⟩
  | cons head same tail ih =>
    obtain ⟨resolution, left⟩ := resolution_of_answersFrom steady start head
    obtain ⟨others, last⟩ := ih (same ▸ left)
    refine ⟨?_, last⟩
    rw [List.map_cons, List.map_cons, ← others, resolvedField, resolution]

theorem exists_yields_resolvedOf (config : Config) (schema : Schema) (collection : Collection)
    (steady : choices.AnswersFrom kept answer) (start : kept s.state) :
    ∃ t, Step.Yields (renderInterface config schema choices collection) s
        (interfaceOf config collection (resolvedOf config schema answer collection)) t
      ∧ kept t.state := by
  obtain ⟨interface, t, rendered⟩ :=
    exists_yields_renderInterface config schema choices collection s
  obtain ⟨resolved, turns, fields, rfl⟩ := resolvedInTurn_of_renderInterface rendered
  obtain ⟨same, left⟩ := resolved_of_answersFrom steady start turns
  rw [fields, List.map_map] at same
  rw [same] at rendered
  exact ⟨t, rendered, left⟩

/-- The collections of a data model with their resolved fields. -/
def renderedOf (config : Config) (schema : Schema) (answer : ChoiceSource.Answers) :
    List Rendered :=
  (collectionsOf schema).map fun collection =>
    ⟨collection, resolvedOf config schema answer collection⟩

theorem rendered_of_answersFrom (steady : choices.AnswersFrom kept answer)
    {rendered : List Rendered} (start : kept s.state)
    (h : RenderedInTurn config schema choices s rendered t) :
    rendered = (rendered.map (·.collection)).map (fun collection =>
        ⟨collection, resolvedOf config schema answer collection⟩)
      ∧ kept t.state := by
  induction h with
  | nil => exact ⟨rfl, start⟩
  | cons same head whole tail ih =>
    obtain ⟨fields, left⟩ := resolved_of_answersFrom steady (same ▸ start) head
    obtain ⟨others, last⟩ := ih left
    refine ⟨?_, last⟩
    rw [whole, List.map_map] at fields
    rw [List.map_cons, List.map_cons, ← others, fields]
    rfl

/-- The declarations of a data model are a function of it and of the answers. -/
theorem exists_yields_generationOf (steady : choices.AnswersFrom kept answer) (start : kept s.state)
    (passed : checkCollisions config.layout schema = .ok ()) :
    ∃ t, Step.Yields (generate config schema choices) s
      (generationOf config schema (renderedOf config schema answer)) t := by
  obtain ⟨result, t, run⟩ := exists_yields_generate config schema choices s passed
  obtain ⟨-, rendered, u, turns, -, collections, rfl⟩ := generationOf_of_generate run
  obtain ⟨same, -⟩ := rendered_of_answersFrom steady start turns
  rw [collections] at same
  rw [same] at run
  exact ⟨t, run⟩

end Steady

end Typescribe.Declaration
