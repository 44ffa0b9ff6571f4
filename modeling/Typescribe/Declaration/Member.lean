import Typescribe.Choices.Source
import Typescribe.Declaration.Comment
import Typescribe.Declaration.Config
import Typescribe.Declaration.Enum
import Typescribe.Declaration.Relation
import Typescribe.Declaration.Union
import Typescribe.Naming.PropertyKey

/-!
This module contains the types of fields and the lines of the members that declare them.
-/

namespace Typescribe.Declaration

variable {σ : Type}

/--
The type of a field: from its relation, else from its choices, else from its type tag. A field
without a type is an answer and no failure, so that it does not end the work on its collection.
-/
def resolveField (config : Config) (schema : Schema) (choices : ChoiceSource σ)
    (collection : Collection) (field : Field) : Step σ (Except FieldFault TypeRef) := do
  let related :=
    if field.isAlias then aliasType? schema collection field
    else relationType? config.jsonType schema collection field
  match related with
  | .error fault => return .error fault
  | .ok (some type) => return .ok type
  | .ok none =>
    match enumType? (← choices.safeLookup collection.collection field.field) with
    | .error unwritable =>
      Step.write ⟨.error, .members,
        "Unexpected error while resolving " ++ collection.collection ++ "." ++ field.field,
        collection.collection, field.field⟩
      return .error ⟨collection.collection, field.field, .unwritableChoice unwritable⟩
    | .ok (some type) => return .ok ⟨type, []⟩
    | .ok none => return (fieldScalarType config.jsonType field).map fun type => ⟨type, []⟩

def memberLines (field : Field) (type : String) : List String :=
  commentLines field ++ ["  " ++ Naming.propertyKey field.field ++ ": " ++ type ++ ";"]

def sentinel (config : Config) : FieldProblem → String
  | .unsupportedType _ => if config.lenientTypes then "unknown" else "never"
  | _ => "never"

def memberType (config : Config) (field : Field) : Except FieldFault TypeRef → String
  | .ok type => if field.nullable then withNull type.expression else type.expression
  | .error fault => sentinel config fault.problem

end Typescribe.Declaration
