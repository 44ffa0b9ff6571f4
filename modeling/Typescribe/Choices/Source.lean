import Typescribe.Schema.Basic
import Typescribe.Step

/-!
This module contains the sources that tell which choices a field offers, and the lookup that treats
a failing source as one without choices.
-/

namespace Typescribe

/-- A source of choices, which works on a state of its own. -/
structure ChoiceSource (σ : Type) where
  lookup : (collection field : String) → Step σ (Option FieldDefinition)
  all : Step σ (List FieldDefinition)

namespace ChoiceSource

variable {σ : Type}

def unimplemented : ChoiceSource σ where
  lookup _ _ := Step.failWith .notImplemented
  all := Step.failWith .notImplemented

/-- The definitions by collection and field; the last one of a field stands. -/
def table (definitions : List FieldDefinition) : List ((String × String) × FieldDefinition) :=
  Ordered.ofList (definitions.map fun d => ((d.collection, d.field), d))

def ofDefinitions (definitions : List FieldDefinition) : ChoiceSource σ :=
  let entries := table definitions
  { lookup := fun collection field => pure (Ordered.get? (collection, field) entries)
    all := pure (entries.map (·.2)) }

def failureMessage : Fault → String
  | .lookup problem => "Choice lookup failed, using the column type: " ++ problem.message
  | fault =>
    "Unexpected choice lookup error, using the column type: " ++ fault.kind ++ ": "
      ++ fault.message

def safeLookup (source : ChoiceSource σ) (collection field : String) :
    Step σ (Option FieldDefinition) := do
  match ← (source.lookup collection field).attempt with
  | .ok definition => return definition
  | .error fault =>
    Step.write ⟨.warning, .choices, failureMessage fault, collection, field⟩
    return none

end ChoiceSource

end Typescribe
