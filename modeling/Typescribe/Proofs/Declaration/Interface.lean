import Typescribe.Proofs.Choices.Source
import Typescribe.Proofs.Declaration.Member
import Typescribe.Proofs.Declaration.Reading

/-!
This module contains the runs that render an interface: the fields are resolved one after the other,
every run ends well, and reading the interface gives back the fields with their types.
-/

namespace Typescribe.Declaration

variable {σ : Type} {config : Config} {schema : Schema} {choices : ChoiceSource σ}
  {collection : Collection}

theorem exists_yields_resolveField (field : Field) (s : Session σ) :
    ∃ resolution t,
      Step.Yields (resolveField config schema choices collection field) s resolution t := by
  unfold resolveField
  simp only
  split
  · exact ⟨_, _, Step.yields_pure.mpr ⟨rfl, rfl⟩⟩
  · exact ⟨_, _, Step.yields_pure.mpr ⟨rfl, rfl⟩⟩
  · apply Step.exists_yields_bind (choices.exists_yields_safeLookup _ _ s)
    intro definition t
    split
    · apply Step.exists_yields_bind ⟨(), _, Step.yields_write.mpr rfl⟩
      intro _ u
      exact ⟨_, _, Step.yields_pure.mpr ⟨rfl, rfl⟩⟩
    · exact ⟨_, _, Step.yields_pure.mpr ⟨rfl, rfl⟩⟩
    · exact ⟨_, _, Step.yields_pure.mpr ⟨rfl, rfl⟩⟩

theorem exists_yields_resolveMember (field : Field) (s : Session σ) :
    ∃ member t, Step.Yields (resolveMember config schema choices collection field) s member t := by
  unfold resolveMember
  apply Step.exists_yields_bind (exists_yields_resolveField field s)
  intro resolution t
  cases resolution with
  | ok type => exact ⟨_, _, Step.yields_pure.mpr ⟨rfl, rfl⟩⟩
  | error fault =>
    apply Step.exists_yields_bind ⟨(), _, Step.yields_write.mpr rfl⟩
    intro _ u
    exact ⟨_, _, Step.yields_pure.mpr ⟨rfl, rfl⟩⟩

theorem resolution_of_resolveMember {field : Field} {s u : Session σ} {member : Member}
    (h : Step.Yields (resolveMember config schema choices collection field) s member u) :
    member = ⟨field, member.resolution, memberType config field member.resolution⟩
      ∧ ∃ t, Step.Yields (resolveField config schema choices collection field) s
          member.resolution t ∧ u.state = t.state := by
  unfold resolveMember at h
  obtain ⟨resolution, t, resolved, h⟩ := Step.yields_bind.mp h
  cases resolution with
  | ok type =>
    obtain ⟨rfl, rfl⟩ := Step.yields_pure.mp h
    exact ⟨rfl, t, resolved, rfl⟩
  | error fault =>
    obtain ⟨_, v, logged, h⟩ := Step.yields_bind.mp h
    obtain ⟨rfl, rfl⟩ := Step.yields_pure.mp h
    refine ⟨rfl, t, resolved, ?_⟩
    rw [Step.yields_write.mp logged]

structure Resolved where
  field : Field
  resolution : Except FieldFault TypeRef

/--
Fields that are resolved one after the other. Each resolution starts from the state that the one
before it leaves; between them only the log can grow.
-/
inductive ResolvedInTurn (config : Config) (schema : Schema) (choices : ChoiceSource σ)
    (collection : Collection) : Session σ → List Resolved → Session σ → Prop where
  | nil {s : Session σ} : ResolvedInTurn config schema choices collection s [] s
  | cons {s t u v : Session σ} {field : Field} {resolution : Except FieldFault TypeRef}
    {resolved : List Resolved}
    (head : Step.Yields (resolveField config schema choices collection field) s resolution t)
    (kept : u.state = t.state)
    (tail : ResolvedInTurn config schema choices collection u resolved v) :
    ResolvedInTurn config schema choices collection s (⟨field, resolution⟩ :: resolved) v

def membersOf (config : Config) (resolved : List Resolved) : List Member :=
  resolved.map fun r => ⟨r.field, r.resolution, memberType config r.field r.resolution⟩

theorem resolvedInTurn_of_chain {fields : List Field} {members : List Member} {s t : Session σ}
    (h : Step.Chain (resolveMember config schema choices collection) s fields members t) :
    ∃ resolved, ResolvedInTurn config schema choices collection s resolved t
      ∧ resolved.map (·.field) = fields ∧ members = membersOf config resolved := by
  induction h with
  | nil => exact ⟨[], .nil, rfl, rfl⟩
  | @cons _ _ _ field _ _ _ head tail ih =>
    obtain ⟨member, u, first, kept⟩ := resolution_of_resolveMember head
    obtain ⟨resolved, turns, same, rest⟩ := ih
    refine ⟨⟨field, _⟩ :: resolved, .cons first kept turns, ?_, ?_⟩
    · rw [List.map_cons, same]
    · rw [membersOf, List.map_cons, ← member, rest]
      rfl

theorem yields_renderInterface {interface : Interface} {s t : Session σ} :
    Step.Yields (renderInterface config schema choices collection) s interface t
      ↔ ∃ members, Step.Chain (resolveMember config schema choices collection) s
            (collection.fields.map (·.2)) members t
          ∧ interface = .ofMembers config collection members := by
  unfold renderInterface
  rw [Step.yields_bind]
  constructor
  · rintro ⟨members, u, chain, h⟩
    obtain ⟨rfl, rfl⟩ := Step.yields_pure.mp h
    exact ⟨members, Step.Chain.map_iff.mp (Step.yields_mapM.mp chain), rfl⟩
  · rintro ⟨members, chain, rfl⟩
    exact ⟨members, t, Step.yields_mapM.mpr (Step.Chain.map_iff.mpr chain),
      Step.yields_pure.mpr ⟨rfl, rfl⟩⟩

def interfaceOf (config : Config) (collection : Collection) (resolved : List Resolved) :
    Interface :=
  .ofMembers config collection (membersOf config resolved)

theorem resolvedInTurn_of_renderInterface {interface : Interface} {s t : Session σ}
    (h : Step.Yields (renderInterface config schema choices collection) s interface t) :
    ∃ resolved, ResolvedInTurn config schema choices collection s resolved t
      ∧ resolved.map (·.field) = collection.fields.map (·.2)
      ∧ interface = interfaceOf config collection resolved := by
  obtain ⟨members, chain, rfl⟩ := yields_renderInterface.mp h
  obtain ⟨resolved, turns, same, rfl⟩ := resolvedInTurn_of_chain chain
  exact ⟨resolved, turns, same, rfl⟩

theorem exists_yields_renderInterface (config : Config) (schema : Schema)
    (choices : ChoiceSource σ) (collection : Collection) (s : Session σ) :
    ∃ interface t,
      Step.Yields (renderInterface config schema choices collection) s interface t := by
  have total : ∀ field s, ∃ member t,
      Step.Yields (resolveMember config schema choices collection field) s member t :=
    exists_yields_resolveMember
  obtain ⟨members, t, chain⟩ := Step.Chain.exists_of_total total (collection.fields.map (·.2)) s
  exact ⟨_, t, yields_renderInterface.mpr ⟨members, chain, rfl⟩⟩

/-- The type that a field is declared with: `null` is added once, and a failure shows as one word. -/
def emittedType (config : Config) (field : Field) : Except FieldFault TypeRef → String
  | .ok type => if field.nullable then type.expression ++ " | null" else type.expression
  | .error fault => sentinel config fault.problem

theorem memberType_eq {field : Field} {resolution : Except FieldFault TypeRef} {s t : Session σ}
    (hj : IsPlainJson config.jsonType)
    (h : Step.Yields (resolveField config schema choices collection field) s resolution t) :
    memberType config field resolution = emittedType config field resolution
      ∧ '\n' ∉ (emittedType config field resolution).toList := by
  cases resolution with
  | error fault =>
    refine ⟨rfl, ?_⟩
    unfold emittedType sentinel
    simp only
    split
    · split <;> decide
    · decide
  | ok type =>
    obtain ⟨parts, -, union⟩ := isUnion_of_resolveField hj h
    unfold memberType emittedType
    simp only
    split
    · exact ⟨union.withNull_eq, by simp [union.line]⟩
    · exact ⟨rfl, union.line⟩

theorem emitted_of_mem_membersOf {resolved : List Resolved} {s t : Session σ}
    (hj : IsPlainJson config.jsonType)
    (h : ResolvedInTurn config schema choices collection s resolved t) :
    (membersOf config resolved).map (fun m => (m.field.field, m.type))
        = resolved.map (fun r => (r.field.field, emittedType config r.field r.resolution))
      ∧ ∀ m ∈ membersOf config resolved,
          m.field ∈ resolved.map (·.field) ∧ '\n' ∉ m.type.toList := by
  induction h with
  | nil => exact ⟨rfl, by simp [membersOf]⟩
  | cons head kept tail ih =>
    obtain ⟨type, line⟩ := memberType_eq hj head
    obtain ⟨pairs, members⟩ := ih
    unfold membersOf at *
    rw [List.map_cons, List.map_cons, List.map_cons, pairs, type]
    refine ⟨rfl, fun m hm => ?_⟩
    cases List.mem_cons.mp hm with
    | inl hm => exact hm ▸ ⟨List.mem_cons_self, line⟩
    | inr hm => exact ⟨List.mem_cons_of_mem _ (members m hm).1, (members m hm).2⟩

theorem readInterface?_renderInterface (config : Config) (schema : Schema)
    (choices : ChoiceSource σ) (collection : Collection) (s : Session σ)
    (hj : config.jsonType = "any" ∨ config.jsonType = "unknown")
    (readable : ∀ entry ∈ collection.fields, IsReadable entry.2) :
    ∃ interface resolved t,
      Step.Yields (renderInterface config schema choices collection) s interface t
      ∧ ResolvedInTurn config schema choices collection s resolved t
      ∧ resolved.map (·.field) = collection.fields.map (·.2)
      ∧ readInterface? interface.source = some {
          keyword := config.keyword
          name := Naming.className collection.collection
          members := resolved.map fun r =>
            (r.field.field, emittedType config r.field r.resolution) } := by
  obtain ⟨interface, t, rendered⟩ :=
    exists_yields_renderInterface config schema choices collection s
  obtain ⟨resolved, turns, same, rfl⟩ := resolvedInTurn_of_renderInterface rendered
  obtain ⟨pairs, members⟩ := emitted_of_mem_membersOf hj turns
  refine ⟨_, resolved, t, rendered, turns, same, ?_⟩
  rw [interfaceOf, readInterface?_source _ fun m hm => (members m hm).2, pairs]
  intro m hm
  obtain ⟨entry, he, field⟩ := List.mem_map.mp (same ▸ (members m hm).1)
  exact field ▸ readable entry he

/-- Fields whose notes, names and choices hold what ends a comment, a line or a member elsewhere. -/
def hostileCollection : Collection where
  collection := "posts"
  fields := [
    ("status", {
      collection := "posts", field := "status"
      note := some "*/ \x7d\n  /** \r\u2028  swallowed: never;\n\n" }),
    ("a\"b;\n */", {
      collection := "posts", field := "a\"b;\n */", typeTag := "json", nullable := false }),
    ("shape", { collection := "posts", field := "shape", typeTag := "geometry" })]

theorem readInterface?_hostileCollection :
    ∃ interface t,
      Step.Yields (renderInterface {} {} (.ofDefinitions [hostileDefinition]) hostileCollection)
        (⟨(), []⟩ : Session Unit) interface t
      ∧ readInterface? interface.source = some ⟨"export", "Post", [
          ("status", "'null' | 'a\\' | \\'b' | '\\\\' | '[(<\\n' | 'null' | null"),
          ("a\"b;\n */", "any"), ("shape", "never")]⟩ := by
  have readable : ∀ entry ∈ hostileCollection.fields, IsReadable entry.2 := by
    have fields : ∀ entry ∈ hostileCollection.fields,
        Text.occursIn "*/".toList entry.2.typeTag.toList = false
          ∧ entry.2.columnType = none ∧ entry.2.field.toList.getLast? ≠ some '\n' := by
      decide
    intro entry he
    obtain ⟨tag, column, last⟩ := fields entry he
    exact ⟨tag, fun type given => absurd (column.symm.trans given) nofun, fun h => last h.getLast?⟩
  obtain ⟨interface, resolved, t, rendered, turns, same, read⟩ :=
    readInterface?_renderInterface {} {} (.ofDefinitions [hostileDefinition]) hostileCollection
      ⟨(), []⟩ (.inl rfl) readable
  refine ⟨interface, t, rendered, read.trans ?_⟩
  -- The fields are resolved one by one; each resolution is what its computation evaluates to.
  cases turns with
  | nil => cases same
  | cons first kept turns =>
    cases turns with
    | nil => cases same
    | cons second kept turns =>
      cases turns with
      | nil => cases same
      | cons third kept turns =>
        cases turns with
        | cons => cases same
        | nil =>
          cases same
          cases first
          cases second
          cases third
          rfl

end Typescribe.Declaration
