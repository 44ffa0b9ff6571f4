import Typescribe.Schema.Validation
import Typescribe.Step
import Typescribe.Value.Probe

/-!
This module contains the options of fields and the choices among them.
-/

namespace Typescribe.Snapshot

variable {σ : Type}

/-- The pairs of a mapping; other values have none. -/
def pairsOf (value : Value) : List (Value × Value) :=
  match value.opened with
  | .mapping pairs => pairs
  | _ => []

/--
The options of a field, which are a mapping or the JSON text of one; anything else counts as none.
-/
def parseOptions (options : Value) : Step σ (List (Value × Value)) :=
  if !options.isTruthy then
    return []
  else
    match options with
    | .text s =>
      match readJson s with
      | .ok value => return pairsOf value
      | .error .malformedJson => do
        Step.write {
          level := .warning
          origin := .snapshot
          message := "Ignoring field options that are not valid JSON" }
        return []
      | .error cause => Step.failWith cause
    | value => return pairsOf value

/--
Reads a choice: a mapping with a value, or a bare value. Mappings without a value count as none.
-/
def choice? (value : Value) : Except Cause (Option FieldChoice) :=
  match value.opened with
  | .mapping pairs =>
    match Value.lookup "value" pairs with
    | none => .ok none
    | some value =>
      let text := (Value.lookup "text" pairs).getD .null
      ((FieldChoice.check (.mapping [(.text "value", value), (.text "text", text)])).result
        "FieldChoice").map some
  | _ => value.label.map fun text => some ⟨value, some text⟩

def choices : List Value → Except Cause (List FieldChoice)
  | [] => .ok []
  | value :: rest => do
    let first ← choice? value
    let others ← choices rest
    return first.toList ++ others

/-- The list of choices in the options of a field; what is no list counts as an empty one. -/
def choiceItems (collection field : Value) (options : List (Value × Value)) :
    Step σ (List Value) :=
  match (Value.orElse (Value.lookup "choices" options) (.list [])).opened with
  | .list items => return items
  | _ => do
    Step.write ⟨.warning, .snapshot,
      "Ignoring choices of " ++ collection.shown ++ "." ++ field.shown ++ " that are not a list",
      collection.shown, field.shown⟩
    return []

def orFail {α : Type} (result : Except Cause α) : Step σ α :=
  Step.ofExcept (result.mapError .foreign)

/-- The definition of a field with the given choices; its names are still to be checked. -/
def checkDefinition (collection field interface : Value) (choices : List FieldChoice) :
    Except Cause FieldDefinition := do
  let definition ← (FieldDefinition.check (.mapping [(.text "collection", collection),
    (.text "field", field), (.text "interface", interface)])).result "FieldDefinition"
  return { definition with choices }

def buildDefinition (collection field interface options : Value) : Step σ FieldDefinition := do
  let items ← choiceItems collection field (← parseOptions options)
  let choices ← orFail (choices items)
  orFail (checkDefinition collection field interface choices)

end Typescribe.Snapshot
