import Typescribe.Proofs.Declaration.Resolution

/-!
This module contains what the resolution of a field depends on: the relations that are found for it,
and the collections that these point at.
-/

namespace Typescribe.Declaration

variable {config : Config} {schema other : Schema} {collection : Collection}

/-- The identifiers under which a relation looks for its targets, from either of its sides. -/
inductive PointsAt (relation : Relation) : String → Prop where
  | candidate {candidates : List String} {id : String}
    (listed : candidates? relation = some candidates) (one : id ∈ candidates) : PointsAt relation id
  | many {sides : RelationMeta} {collection field : String} (given : relation.sides = some sides)
    (one : sides.oneCollection = some collection) (shown : sides.oneField = some field) :
    PointsAt relation (manySide relation sides)

/--
Data models that look the same from the fields: the same relations are found for a field, and what
these point at has the same identifiers.
-/
structure SameTargets (schema other : Schema) : Prop where
  forward : ∀ collection field, other.relationFor? (some collection) (some field)
    = schema.relationFor? (some collection) (some field)
  reverse : ∀ collection field, other.reverseRelationFor? (some collection) (some field)
    = schema.reverseRelationFor? (some collection) (some field)
  target : ∀ relation ∈ schema.relations, ∀ id, PointsAt relation id →
    (other.collection? (some id)).map (·.collection)
      = (schema.collection? (some id)).map (·.collection)

theorem targetName_congr {candidate : String} (field : Field)
    (h : (other.collection? (some candidate)).map (·.collection)
      = (schema.collection? (some candidate)).map (·.collection)) :
    targetName other field candidate = targetName schema field candidate := by
  have byId (schema : Schema) : targetName schema field candidate
      = ((schema.collection? (some candidate)).map (·.collection)).elim
        (.error ⟨field.collection, field.field, .danglingRelation (some candidate)⟩)
        fun id => .ok (Naming.className id) := by
    unfold targetName
    cases schema.collection? (some candidate) <;> rfl
  rw [byId, byId, h]

theorem targetNames_congr {relation : Relation} (field : Field)
    (h : ∀ candidates, candidates? relation = some candidates → ∀ id ∈ candidates,
      targetName other field id = targetName schema field id) :
    targetNames other field relation = targetNames schema field relation := by
  unfold targetNames
  cases listed : candidates? relation with
  | none => rfl
  | some candidates => exact mapM_congr (h candidates listed)

theorem mem_relations_of_reverseRelationFor? {collection field : String} {relation : Relation}
    {sides : RelationMeta}
    (h : schema.reverseRelationFor? (some collection) (some field) = some (relation, sides)) :
    relation ∈ schema.relations ∧ relation.sides = some sides
      ∧ sides.oneCollection = some collection ∧ sides.oneField = some field := by
  obtain ⟨found, listed, same⟩ := List.exists_of_findSome?_eq_some h
  split at same
  · cases same
  · next given =>
    split at same
    · next side =>
      cases same
      exact ⟨listed, given, side⟩
    · cases same

namespace SameTargets

theorem targetNames (same : SameTargets schema other) {relation : Relation}
    (h : relation ∈ schema.relations) (field : Field) :
    targetNames other field relation = targetNames schema field relation :=
  targetNames_congr field fun _ listed candidate one =>
    targetName_congr field (same.target relation h candidate (.candidate listed one))

theorem relationType? (same : SameTargets schema other) (jsonType : String) (field : Field) :
    relationType? jsonType other collection field
      = relationType? jsonType schema collection field := by
  unfold Declaration.relationType?
  rw [same.forward]
  cases found : schema.relationFor? (some collection.collection) (some field.field) with
  | none => rfl
  | some relation =>
    have names := same.targetNames (List.mem_of_find?_eq_some found) field
    simp only [names]

theorem aliasType? (same : SameTargets schema other) (field : Field) :
    aliasType? other collection field = aliasType? schema collection field := by
  unfold Declaration.aliasType?
  rw [same.reverse]
  cases found : schema.reverseRelationFor? (some collection.collection) (some field.field) with
  | none => rfl
  | some pair =>
    obtain ⟨relation, sides⟩ := pair
    obtain ⟨listed, given, one, shown⟩ := mem_relations_of_reverseRelationFor? found
    have target := same.target relation listed _ (.many given one shown)
    change targetName other field (manySide relation sides) >>= _
      = targetName schema field (manySide relation sides) >>= _
    rw [targetName_congr field target]

theorem resolutionOf (same : SameTargets schema other) (field : Field)
    (answer : Except Fault (Option FieldDefinition)) :
    resolutionOf config other collection field answer
      = resolutionOf config schema collection field answer := by
  unfold Declaration.resolutionOf relatedType?
  rw [same.relationType?, same.aliasType?]

end SameTargets

end Typescribe.Declaration
