import Typescribe.Ordered
import Typescribe.Text.Split
import Typescribe.Value.Basic

/-!
This module contains the data model of a project: collections with their fields, the relations
between them, and the choices that fields offer.
-/

namespace Typescribe

/-- A field of a collection: a column, or an alias without one. -/
structure Field where
  collection : String
  field : String
  typeTag : String := "unknown"
  nullable : Bool := true
  isAlias : Bool := false
  note : Option String := none
  columnType : Option String := none
deriving DecidableEq, Repr, Inhabited

/-- A collection. The order of its fields is the order of their declaration. -/
structure Collection where
  collection : String
  singleton : Bool := false
  fields : List (String × Field) := []
deriving DecidableEq, Repr, Inhabited

/-- The two sides of a relation as they are registered. -/
structure RelationMeta where
  manyCollection : Option String := none
  manyField : Option String := none
  oneCollection : Option String := none
  oneField : Option String := none
  junctionField : Option String := none
  oneAllowedCollections : List String := []
deriving DecidableEq, Repr, Inhabited

structure Relation where
  collection : String
  field : String
  relatedCollection : Option String := none
  foreignKeyColumn : Option String := none
  manyToManyField : Option String := none
  oneToManyField : Option String := none
  sides : Option RelationMeta := none
deriving DecidableEq, Repr, Inhabited

def isGiven : Option String → Bool
  | none => false
  | some name => name ≠ ""

def Relation.isToMany (r : Relation) : Bool :=
  isGiven r.manyToManyField || isGiven r.oneToManyField

structure FieldChoice where
  value : Value
  text : Option String := none
deriving Repr, Inhabited

/-- What is known about the choices of a field. -/
structure FieldDefinition where
  collection : String
  field : String
  interface : Option String := none
  choices : List FieldChoice := []
deriving Repr, Inhabited

def FieldDefinition.isMultiple (d : FieldDefinition) : Bool :=
  match d.interface with
  | none => false
  | some interface => Text.occursIn "multiple".toList interface.toList

/--
A data model. Collections are kept under a key, which is their identifier in all but odd cases.
-/
structure Schema where
  collections : List (String × Collection) := []
  relations : List Relation := []
deriving DecidableEq, Repr, Inhabited

namespace Schema

def collection? (schema : Schema) (id : Option String) : Option Collection :=
  id.bind fun id => Ordered.get? id schema.collections

def relationFor? (schema : Schema) (collection field : Option String) : Option Relation :=
  schema.relations.find? fun r => some r.collection = collection && some r.field = field

def reverseRelationFor? (schema : Schema) (collection field : Option String) :
    Option (Relation × RelationMeta) :=
  schema.relations.findSome? fun r =>
    match r.sides with
    | none => none
    | some sides =>
      if sides.oneCollection = collection ∧ sides.oneField = field then some (r, sides) else none

end Schema

end Typescribe
