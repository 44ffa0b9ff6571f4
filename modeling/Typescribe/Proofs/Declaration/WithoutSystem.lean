import Typescribe.Proofs.Declaration.Targets
import Typescribe.Proofs.Ordered

/-!
This module contains the data model without its system collections: what is looked up in it for the
fields of the other collections, and the interfaces that stay the same.
-/

namespace Typescribe

def isSystemName (name : String) : Bool :=
  Text.startsWith "directus_".toList name.toList

/-- The relation without its key column, if it is declared on a system collection. -/
def Relation.withoutSystemKey (relation : Relation) : Relation :=
  if isSystemName relation.collection then { relation with foreignKeyColumn := none } else relation

namespace Relation

@[simp]
theorem collection_withoutSystemKey (relation : Relation) :
    relation.withoutSystemKey.collection = relation.collection := by
  unfold withoutSystemKey
  split <;> rfl

@[simp]
theorem field_withoutSystemKey (relation : Relation) :
    relation.withoutSystemKey.field = relation.field := by
  unfold withoutSystemKey
  split <;> rfl

@[simp]
theorem sides_withoutSystemKey (relation : Relation) :
    relation.withoutSystemKey.sides = relation.sides := by
  unfold withoutSystemKey
  split <;> rfl

theorem withoutSystemKey_of_user {relation : Relation} (h : ¬isSystemName relation.collection) :
    relation.withoutSystemKey = relation :=
  if_neg h

end Relation

namespace Schema

variable {schema : Schema}

def withoutSystem (schema : Schema) : Schema where
  collections := schema.collections.filter fun entry => !isSystemName entry.1
  relations := schema.relations.map Relation.withoutSystemKey

theorem collection?_withoutSystem {id : String}
    (h : isSystemName id → schema.collection? (some id) = none) :
    schema.withoutSystem.collection? (some id) = schema.collection? (some id) := by
  change Ordered.get? id (schema.collections.filter fun entry => !isSystemName entry.1)
    = Ordered.get? id schema.collections
  rw [Ordered.get?_filter fun name => !isSystemName name]
  split
  · rfl
  · next system => exact (h (by simpa using system)).symm

theorem relationFor?_withoutSystem {collection : String} (user : ¬isSystemName collection)
    (field : Option String) :
    schema.withoutSystem.relationFor? (some collection) field
      = schema.relationFor? (some collection) field := by
  unfold relationFor? withoutSystem
  rw [List.find?_map]
  simp only [Function.comp_def, Relation.collection_withoutSystemKey,
    Relation.field_withoutSystemKey]
  cases found : schema.relations.find? fun r => some r.collection = some collection
      && some r.field = field with
  | none => rfl
  | some relation =>
    -- The relation is declared on a collection of the user, so it has kept its key column.
    have here : relation.collection = collection := by
      have found := List.find?_some found
      simp at found
      exact found.1
    rw [Option.map_some, Relation.withoutSystemKey_of_user (here ▸ user)]

theorem reverseRelationFor?_withoutSystem (collection field : Option String) :
    schema.withoutSystem.reverseRelationFor? collection field
      = (schema.reverseRelationFor? collection field).map fun found =>
          (found.1.withoutSystemKey, found.2) := by
  unfold reverseRelationFor? withoutSystem
  rw [List.findSome?_map, List.map_findSome?]
  congr 1
  funext relation
  simp only [Function.comp_def, Relation.sides_withoutSystemKey]
  cases relation.sides with
  | none => rfl
  | some sides =>
    simp only
    split <;> rfl

end Schema

namespace Declaration

variable {σ : Type} {config : Config} {schema : Schema} {collection : Collection} {field : Field}

/-- The type of a field looks for the collection with this identifier. -/
inductive LinksTo (schema : Schema) (collection : Collection) (field : Field) : String → Prop where
  | forward {relation : Relation} {candidates : List String} {id : String}
    (column : ¬field.isAlias)
    (found : schema.relationFor? (some collection.collection) (some field.field) = some relation)
    (listed : candidates? relation = some candidates) (one : id ∈ candidates) :
    LinksTo schema collection field id
  | reverse {relation : Relation} {sides : RelationMeta} (shown : field.isAlias)
    (found : schema.reverseRelationFor? (some collection.collection) (some field.field)
      = some (relation, sides)) :
    LinksTo schema collection field (manySide relation sides)

/-- No field of a collection links to a system collection. -/
def StandsAlone (schema : Schema) (collection : Collection) : Prop :=
  ∀ entry ∈ collection.fields, ∀ id, LinksTo schema collection entry.2 id →
    isSystemName id → schema.collection? (some id) = none

theorem targetName_withoutSystem {id : String} (field : Field)
    (h : isSystemName id → schema.collection? (some id) = none) :
    targetName schema.withoutSystem field id = targetName schema field id :=
  targetName_congr field (by rw [Schema.collection?_withoutSystem h])

theorem relatedType?_withoutSystem (user : ¬isSystemName collection.collection)
    (alone : ∀ id, LinksTo schema collection field id →
      isSystemName id → schema.collection? (some id) = none) :
    relatedType? config schema.withoutSystem collection field
      = relatedType? config schema collection field := by
  unfold relatedType?
  split
  · next shown =>
    unfold aliasType?
    rw [Schema.reverseRelationFor?_withoutSystem]
    cases found : schema.reverseRelationFor? (some collection.collection) (some field.field) with
    | none => rfl
    | some pair =>
      obtain ⟨relation, sides⟩ := pair
      have many : manySide relation.withoutSystemKey sides = manySide relation sides := by
        unfold manySide
        rw [Relation.collection_withoutSystemKey]
      change targetName schema.withoutSystem field (manySide relation.withoutSystemKey sides) >>= _
        = targetName schema field (manySide relation sides) >>= _
      rw [many, targetName_withoutSystem field (alone _ (.reverse shown found))]
  · next column =>
    unfold relationType?
    rw [Schema.relationFor?_withoutSystem user]
    cases found : schema.relationFor? (some collection.collection) (some field.field) with
    | none => rfl
    | some relation =>
      have names : targetNames schema.withoutSystem field relation
          = targetNames schema field relation :=
        targetNames_congr field fun _ listed id one =>
          targetName_withoutSystem field (alone id (.forward column found listed one))
      simp only [names]

theorem resolveMember_congr {other : Schema} (choices : ChoiceSource σ)
    (h : relatedType? config other collection field = relatedType? config schema collection field) :
    resolveMember config other choices collection field
      = resolveMember config schema choices collection field := by
  unfold resolveMember resolveField
  simp only
  rw [← relatedType?, ← relatedType?, h]

/-- An interface without links to system collections does not depend on these. -/
theorem renderInterface_withoutSystem (config : Config) (choices : ChoiceSource σ)
    (user : ¬isSystemName collection.collection) (alone : StandsAlone schema collection) :
    renderInterface config schema.withoutSystem choices collection
      = renderInterface config schema choices collection := by
  unfold renderInterface
  congr 1
  apply mapM_congr
  intro entry he
  exact resolveMember_congr choices (relatedType?_withoutSystem user (alone entry he))

end Declaration

end Typescribe
