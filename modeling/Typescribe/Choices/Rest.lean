import Typescribe.Choices.Source
import Typescribe.Rest.Client

/-!
This module contains the source of choices that asks the REST interface of a server.
-/

namespace Typescribe.ChoiceSource

variable {σ : Type}

/-- The path of a field; its two last segments are percent-encoded. -/
def fieldPath (collection field : String) : String :=
  String.ofList ("/fields/".toList ++ Text.percentEncode collection.toList
    ++ '/' :: Text.percentEncode field.toList)

def definitionOf (collection field info : Value) : Step σ FieldDefinition := do
  let interface ← Snapshot.orFail (info.member? "interface")
  let options ← Snapshot.orFail (info.member? "options")
  Snapshot.buildDefinition collection field (interface.getD .null) (options.getD .null)

def infoOf (pairs : List (Value × Value)) : Value :=
  Value.orEmpty (Value.lookup "meta" pairs)

def isUnknownField : Fault → Bool
  | .foreign (.httpStatus code) => code = 403 || code = 404
  | _ => false

/-- The definition of a field; an unknown field has none. -/
def restLookup (client : Rest.Client σ) (collection field : String) :
    Step σ (Option FieldDefinition) := do
  let path := fieldPath collection field
  match ← (client.get path).attempt with
  | .ok (.mapping pairs) =>
    return some (← definitionOf (.text collection) (.text field) (infoOf pairs))
  | .ok _ => return none
  | .error fault =>
    if isUnknownField fault then
      return none
    else
      match Rest.Client.isFailedExchange fault with
      | some cause => Step.fail (.lookup (.request path cause))
      | none => Step.fail fault

/-- The definition of an entry in the list of fields; a malformed entry is skipped. -/
def entryDefinition (entry : Value) : Step σ (Option FieldDefinition) := do
  let pairs := Snapshot.pairsOf entry
  match Value.lookup "collection" pairs, Value.lookup "field" pairs with
  | some collection, some field => return some (← definitionOf collection field (infoOf pairs))
  | _, _ =>
    Step.write {
      level := .warning
      origin := .restClient
      message := "Skipping malformed /fields entry" }
    return none

def restAll (client : Rest.Client σ) : Step σ (List FieldDefinition) := do
  let data ← Rest.Client.reportExchange (fun cause => .lookup (.request "/fields" cause))
    (client.get "/fields")
  let entries ← Snapshot.orFail (Value.orElse (some data) (.list [])).elements
  let definitions ← entries.mapM entryDefinition
  return (definitions.filterMap id).filter (!·.choices.isEmpty)

def ofServer (client : Rest.Client σ) : ChoiceSource σ where
  lookup := restLookup client
  all := restAll client

end Typescribe.ChoiceSource
