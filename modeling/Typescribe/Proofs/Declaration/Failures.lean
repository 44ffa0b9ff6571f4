import Typescribe.Proofs.Declaration.Targets

/-!
This module contains how far a failure reaches: a field without a type has its own lines and its own
entry in the list of failures, and nothing else of the interface depends on it.
-/

namespace Typescribe.Declaration

variable {σ τ : Type} {config : Config} {schema other : Schema} {choices : ChoiceSource σ}
  {collection : Collection} {s t : Session σ}

/-- The lines of an interface that belong to a field. -/
def Resolved.block (config : Config) (r : Resolved) : List String :=
  Member.lines ⟨r.field, r.resolution, memberType config r.field r.resolution⟩

/-- What is reported of a field: nothing, unless its resolution failed. -/
def Resolved.failure? (collection : Collection) (r : Resolved) : Option FieldFault :=
  match r.resolution with
  | .ok _ => none
  | .error fault => some ⟨collection.collection, r.field.field, fault.problem⟩

def headerLine (config : Config) (collection : Collection) : String :=
  config.keyword ++ " interface " ++ Naming.className collection.collection ++ " \x7b"

theorem source_interfaceOf (config : Config) (collection : Collection) (resolved : List Resolved) :
    (interfaceOf config collection resolved).source
      = linesText (headerLine config collection :: resolved.flatMap (Resolved.block config)
          ++ ["\x7d"]) := by
  simp only [interfaceOf, Interface.ofMembers, membersOf, List.flatMap_map]
  rfl

theorem failures_interfaceOf (config : Config) (collection : Collection)
    (resolved : List Resolved) :
    (interfaceOf config collection resolved).failures
      = resolved.filterMap (Resolved.failure? collection) := by
  simp only [interfaceOf, Interface.ofMembers, membersOf, List.filterMap_map]
  rfl

/-- Answers that fall silent at some of the fields where others fail. -/
def Silences (quiet answer : ChoiceSource.Answers) : Prop :=
  ∀ collection field, quiet collection field = answer collection field
    ∨ (∃ fault, answer collection field = .error fault) ∧ quiet collection field = .ok none

theorem Silences.resolvedOf {quiet answer : ChoiceSource.Answers} (h : Silences quiet answer) :
    resolvedOf config schema quiet collection = resolvedOf config schema answer collection := by
  apply List.map_congr_left
  rintro ⟨_, field⟩ -
  unfold resolvedField resolutionOf
  rcases h collection.collection field.field with same | ⟨⟨fault, failed⟩, silent⟩
  · rw [same]
  · rw [failed, silent]
    rfl

/-- Data models that differ at most in the fields of their collections. -/
structure SameButFields (schema other : Schema) : Prop where
  relations : other.relations = schema.relations
  collections : ∀ id, (other.collection? id).map (·.collection)
    = (schema.collection? id).map (·.collection)

theorem SameButFields.sameTargets (h : SameButFields schema other) : SameTargets schema other where
  forward _ _ := by rw [Schema.relationFor?, h.relations, Schema.relationFor?]
  reverse _ _ := by rw [Schema.reverseRelationFor?, h.relations, Schema.reverseRelationFor?]
  target _ _ id _ := h.collections (some id)

/-- The collection without the fields that are not to be kept. -/
def Collection.keeping (collection : Collection) (keep : String × Field → Bool) : Collection :=
  { collection with fields := collection.fields.filter keep }

theorem resolvedOf_keeping {answer : ChoiceSource.Answers} (h : SameButFields schema other)
    (keep : String × Field → Bool) :
    resolvedOf config other answer (Collection.keeping collection keep)
      = (collection.fields.filter keep).map fun entry =>
          resolvedField config schema answer collection entry.2 := by
  apply List.map_congr_left
  rintro ⟨_, field⟩ -
  exact congrArg (Resolved.mk field) (h.sameTargets.resolutionOf field _)

theorem failures_generationOf (config : Config) (schema : Schema) (rendered : List Rendered) :
    (generationOf config schema rendered).failures
      = rendered.flatMap fun r => r.fields.filterMap (Resolved.failure? r.collection) := by
  simp only [generationOf, List.flatMap_map]
  congr 1
  funext r
  exact failures_interfaceOf config r.collection r.fields

theorem generate_cases (config : Config) (schema : Schema) (choices : ChoiceSource σ)
    (s : Session σ) :
    (∃ found, (generate config schema choices).run.run s = (.error (.collision found), s))
      ∨ ∃ result t, Step.Yields (generate config schema choices) s result t := by
  cases check : checkCollisions config.layout schema with
  | ok passed => exact .inr (exists_yields_generate config schema choices s check)
  | error fault =>
    left
    obtain ⟨found, rfl⟩ := exists_of_checkCollisions_eq_error check
    exact ⟨found, run_generate_of_collision check⟩

/--
Every rendering ends well and reports, in order, the fields whose resolution failed; a generation
fails only if names collide, and else reports what its interfaces report. If each field has one answer
about its choices, a failing lookup counts as a silent one, and leaving out fields leaves out their
lines and entries and nothing else.
-/
theorem renderInterface_failures (config : Config) (schema : Schema) (choices : ChoiceSource σ) :
    (∀ collection (s : Session σ), ∃ interface resolved t,
        Step.Yields (renderInterface config schema choices collection) s interface t
          ∧ ResolvedInTurn config schema choices collection s resolved t
          ∧ resolved.map (·.field) = collection.fields.map (·.2)
          ∧ interface.failures = resolved.filterMap (Resolved.failure? collection))
      ∧ (∀ s : Session σ,
          (∃ found, (generate config schema choices).run.run s = (.error (.collision found), s))
            ∨ ∃ result rendered t u,
                Step.Yields (generate config schema choices) s result t
                  ∧ RenderedInTurn config schema choices s rendered u
                  ∧ rendered.map (·.collection) = collectionsOf schema
                  ∧ result.failures = rendered.flatMap fun r =>
                      r.fields.filterMap (Resolved.failure? r.collection))
      ∧ ∀ kept answer, choices.AnswersFrom kept answer → ∀ s : Session σ, kept s.state →
          (∀ (quiet : ChoiceSource τ) quietKept quietAnswer,
            quiet.AnswersFrom quietKept quietAnswer → Silences quietAnswer answer →
              ∀ u : Session τ, quietKept u.state → ∀ collection, ∃ interface t v,
                Step.Yields (renderInterface config schema choices collection) s interface t
                  ∧ Step.Yields (renderInterface config schema quiet collection) u interface v)
          ∧ ∀ other, SameButFields schema other → ∀ collection keep, ∃ interface t,
              Step.Yields (renderInterface config other choices
                  (Collection.keeping collection keep)) s interface t
                ∧ interface.source = linesText (headerLine config collection
                    :: (collection.fields.filter keep).flatMap (fun entry =>
                      (resolvedField config schema answer collection entry.2).block config)
                    ++ ["\x7d"])
                ∧ interface.failures = (collection.fields.filter keep).filterMap fun entry =>
                    (resolvedField config schema answer collection entry.2).failure? collection := by
  refine ⟨?_, ?_, ?_⟩
  · intro collection s
    obtain ⟨interface, t, rendered⟩ :=
      exists_yields_renderInterface config schema choices collection s
    obtain ⟨resolved, turns, fields, rfl⟩ := resolvedInTurn_of_renderInterface rendered
    exact ⟨_, resolved, t, rendered, turns, fields, failures_interfaceOf config collection resolved⟩
  · intro s
    rcases generate_cases config schema choices s with collision | ⟨result, t, run⟩
    · exact .inl collision
    · obtain ⟨-, rendered, u, turns, -, same, rfl⟩ := generationOf_of_generate run
      exact .inr ⟨_, rendered, t, u, run, turns, same, failures_generationOf config schema rendered⟩
  · intro kept answer steady s start
    constructor
    · intro quiet quietKept quietAnswer quietSteady silences u quietStart collection
      obtain ⟨t, loud, -⟩ := exists_yields_resolvedOf config schema collection steady start
      obtain ⟨v, silent, -⟩ :=
        exists_yields_resolvedOf config schema collection quietSteady quietStart
      rw [silences.resolvedOf] at silent
      exact ⟨_, t, v, loud, silent⟩
    · intro other same collection keep
      obtain ⟨t, rendered, -⟩ :=
        exists_yields_resolvedOf config other (Collection.keeping collection keep) steady start
      rw [resolvedOf_keeping same] at rendered
      refine ⟨_, t, rendered, ?_, ?_⟩
      · rw [source_interfaceOf, List.flatMap_map]
        rfl
      · rw [failures_interfaceOf, List.filterMap_map]
        rfl

/-- A lookup that fails, a choice that JSON has no form for, and a type that is not supported. -/
def faultyCollection : Collection where
  collection := "posts"
  fields := [
    ("status", { collection := "posts", field := "status", typeTag := "string" }),
    ("cover", { collection := "posts", field := "cover", typeTag := "string" }),
    ("shape", { collection := "posts", field := "shape", typeTag := "geometry" })]

def faultyAnswer (atStatus : Except Fault (Option FieldDefinition)) : ChoiceSource.Answers :=
  fun collection field =>
    if field = "status" then atStatus
    else if field = "cover" then .ok (some ⟨collection, field, none, [⟨.bytes [0], none⟩]⟩)
    else .ok none

theorem renderInterface_failures_faultyCollection :
    let loud : ChoiceSource Unit := .answering (faultyAnswer (.error (.foreign .memory)))
    let quiet : ChoiceSource Unit := .answering (faultyAnswer (.ok none))
    ∃ interface t u less v,
      Step.Yields (renderInterface {} {} loud faultyCollection) ⟨(), []⟩ interface t
        ∧ Step.Yields (renderInterface {} {} quiet faultyCollection) ⟨(), []⟩ interface u
        ∧ interface.failures = [
            ⟨"posts", "cover", .unwritableChoice (.value "bytes")⟩,
            ⟨"posts", "shape", .unsupportedType "geometry"⟩]
        ∧ Step.Yields (renderInterface {} {} loud
            (Collection.keeping faultyCollection (·.1 ≠ "cover"))) ⟨(), []⟩ less v
        ∧ less.failures = [⟨"posts", "shape", .unsupportedType "geometry"⟩] := by
  intro loud quiet
  have silences : Silences (faultyAnswer (.ok none)) (faultyAnswer (.error (.foreign .memory))) := by
    intro collection field
    unfold faultyAnswer
    split
    · exact .inr ⟨⟨_, rfl⟩, rfl⟩
    · exact .inl rfl
  have unchanged : SameButFields {} {} := ⟨rfl, fun _ => rfl⟩
  obtain ⟨-, -, rest⟩ := renderInterface_failures (τ := Unit) {} {} loud
  obtain ⟨silent, without⟩ := rest _ _ (ChoiceSource.answersFrom_answering _) ⟨(), []⟩ trivial
  obtain ⟨interface, t, u, first, second⟩ := silent quiet _ _
    (ChoiceSource.answersFrom_answering _) silences ⟨(), []⟩ trivial faultyCollection
  obtain ⟨whole, w, all, -, failures⟩ := without {} unchanged faultyCollection fun _ => true
  obtain ⟨less, v, removed, -, fewer⟩ := without {} unchanged faultyCollection (·.1 ≠ "cover")
  cases first.symm.trans all
  exact ⟨_, _, u, less, v, first, second, failures.trans rfl, removed, fewer.trans rfl⟩

end Typescribe.Declaration
