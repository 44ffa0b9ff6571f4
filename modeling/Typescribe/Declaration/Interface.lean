import Typescribe.Declaration.Member

/-!
This module contains the interfaces of collections: one member for each field in the order of their
declaration.
-/

namespace Typescribe.Declaration

variable {σ : Type}

/-- The list with a name at its place in alphabetical order; a name it holds is not added again. -/
def insertName (name : String) : List String → List String
  | [] => [name]
  | first :: rest =>
    if name = first then first :: rest
    else if name < first then name :: first :: rest
    else first :: insertName name rest

/-- The names in alphabetical order, each once. -/
def sortNames (names : List String) : List String :=
  names.foldr insertName []

def linesText (lines : List String) : String :=
  String.intercalate "\n" lines ++ "\n"

/-- A field, its resolution, and the line block of its member. -/
structure Member where
  field : Field
  resolution : Except FieldFault TypeRef
  type : String

def Member.failure? (collection : Collection) (member : Member) : Option FieldFault :=
  match member.resolution with
  | .ok _ => none
  | .error fault => some ⟨collection.collection, member.field.field, fault.problem⟩

def Member.references (member : Member) : List String :=
  match member.resolution with
  | .ok type => type.references
  | .error _ => []

def Member.lines (member : Member) : List String :=
  "" :: memberLines member.field member.type

def resolveMember (config : Config) (schema : Schema) (choices : ChoiceSource σ)
    (collection : Collection) (field : Field) : Step σ Member := do
  let resolution ← resolveField config schema choices collection field
  let type := memberType config field resolution
  match resolution with
  | .ok _ => pure ()
  | .error fault =>
    Step.write ⟨.error, .members,
      "Failed to get the type for " ++ collection.collection ++ "." ++ field.field
        ++ ", setting it to '" ++ type ++ "': " ++ fault.problem.reason,
      collection.collection, field.field⟩
  return ⟨field, resolution, type⟩

/-- An interface with what it refers to and the fields that have no type. -/
structure Interface where
  name : String
  source : String
  references : List String
  failures : List FieldFault
deriving DecidableEq, Repr

def Interface.ofMembers (config : Config) (collection : Collection) (members : List Member) :
    Interface :=
  let name := Naming.className collection.collection
  { name
    source := linesText
      ((config.keyword ++ " interface " ++ name ++ " \x7b") :: members.flatMap Member.lines
        ++ ["\x7d"])
    references := (sortNames (members.flatMap Member.references)).filter (· ≠ name)
    failures := members.filterMap (Member.failure? collection) }

def renderInterface (config : Config) (schema : Schema) (choices : ChoiceSource σ)
    (collection : Collection) : Step σ Interface := do
  let members ← collection.fields.mapM fun (_, field) =>
    resolveMember config schema choices collection field
  return .ofMembers config collection members

end Typescribe.Declaration
