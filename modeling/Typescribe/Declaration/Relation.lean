import Typescribe.Declaration.Scalar
import Typescribe.Fault
import Typescribe.Json.Writer
import Typescribe.Naming.ClassName
import Typescribe.Schema.Basic

/-!
This module contains the types of fields that point at other collections, from either side of a
relation.
-/

namespace Typescribe.Declaration

/-- A type expression and the interfaces that it refers to. -/
structure TypeRef where
  expression : String
  references : List String := []
deriving DecidableEq, Repr

def fieldScalarType (jsonType : String) (field : Field) : Except FieldFault String :=
  match scalarType? jsonType field.typeTag with
  | some type => .ok type
  | none => .error ⟨field.collection, field.field, .unsupportedType field.typeTag⟩

def targetName (schema : Schema) (field : Field) (candidate : String) : Except FieldFault String :=
  match schema.collection? (some candidate) with
  | some target => .ok (Naming.className target.collection)
  | none => .error ⟨field.collection, field.field, .danglingRelation (some candidate)⟩

def candidates? (relation : Relation) : Option (List String) :=
  if isGiven relation.relatedCollection then
    some relation.relatedCollection.toList
  else
    match relation.sides with
    | some sides =>
      if sides.oneAllowedCollections.isEmpty then none else some sides.oneAllowedCollections
    | none => none

def targetNames (schema : Schema) (field : Field) (relation : Relation) :
    Except FieldFault (List String) :=
  match candidates? relation with
  | some candidates => candidates.mapM (targetName schema field)
  | none => .error ⟨field.collection, field.field, .danglingRelation none⟩

/-- The type of the bare key: that of the key column of a single target, or else of the field. -/
def keyType (jsonType : String) (field : Field) (relation : Relation) (names : List String) :
    Except FieldFault String :=
  match names, relation.foreignKeyColumn with
  | [name], some column =>
    if column ≠ "" then .ok (name ++ "[" ++ Json.quote column ++ "]")
    else fieldScalarType jsonType field
  | _, _ => fieldScalarType jsonType field

/--
The type of a field that holds a key: the item it points at, or the bare key. There is none if no
relation is declared on the field.
-/
def relationType? (jsonType : String) (schema : Schema) (collection : Collection) (field : Field) :
    Except FieldFault (Option TypeRef) :=
  match schema.relationFor? (some collection.collection) (some field.field) with
  | none => .ok none
  | some relation => do
    let names ← targetNames schema field relation
    let key ← keyType jsonType field relation names
    let target := String.intercalate " | " names
    if relation.isToMany then
      let target := if 1 < names.length then "(" ++ target ++ ")" else target
      return some ⟨target ++ "[] | " ++ key ++ "[]", names⟩
    else
      return some ⟨target ++ " | " ++ key, names⟩

/--
The type of an alias field that shows the other side of a relation: all items that point back. There
is none if no relation shows its other side there.
-/
def aliasType? (schema : Schema) (collection : Collection) (field : Field) :
    Except FieldFault (Option TypeRef) :=
  match schema.reverseRelationFor? (some collection.collection) (some field.field) with
  | none => .ok none
  | some (relation, sides) => do
    let many :=
      match sides.manyCollection with
      | some many => if many ≠ "" then many else relation.collection
      | none => relation.collection
    let name ← targetName schema field many
    return some ⟨name ++ "[]", [name]⟩

end Typescribe.Declaration
