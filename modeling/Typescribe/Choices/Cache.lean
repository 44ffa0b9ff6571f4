import Typescribe.Choices.Source

/-!
This module contains the cache of a source of choices, which asks the source for each field at most
once, or for all fields at once.
-/

namespace Typescribe

/-- The state of a cached source: that of the source itself, and the answers that are known. -/
structure Cached (σ : Type) where
  inner : σ
  /-- The known answers by collection and field, in the order of the first answer for a field. -/
  known : List ((String × String) × Option FieldDefinition) := []
  isComplete : Bool := false

namespace Cached

variable {σ : Type}

def complete (cached : Cached σ) (definitions : List FieldDefinition) : Cached σ :=
  { cached with
    known := definitions.foldl (fun known d =>
      Ordered.put (d.collection, d.field) (some d) known) cached.known
    isComplete := true }

def offered (cached : Cached σ) : List FieldDefinition :=
  (cached.known.filterMap (·.2)).filter (!·.choices.isEmpty)

end Cached

namespace ChoiceSource

variable {σ α : Type}

def askInner (step : Step σ α) : Step (Cached σ) α :=
  step.within Cached.inner fun inner cached => { cached with inner }

def remember (key : String × String) (answer : Option FieldDefinition) : Step (Cached σ) Unit := do
  let cached ← Step.state
  Step.setState { cached with known := Ordered.put key answer cached.known }

def prefetch (source : ChoiceSource σ) : Step (Cached σ) Bool := do
  match ← (askInner source.all).attempt with
  | .error fault =>
    Step.write {
      level := .warning
      origin := .choices
      message :=
        "Choice prefetch failed, falling back to per-field lookups: " ++ fault.message }
    return false
  | .ok definitions =>
    Step.setState ((← Step.state).complete definitions)
    Step.write {
      level := .info
      origin := .choices
      message := "Prefetched " ++ toString definitions.length
        ++ " field definitions with choices" }
    return true

/-- The answer for a field: a known one, or that of the source unless all are known. -/
def cachedLookup (source : ChoiceSource σ) (collection field : String) :
    Step (Cached σ) (Option FieldDefinition) := do
  let cached ← Step.state
  match Ordered.get? (collection, field) cached.known with
  | some answer => return answer
  | none =>
    if cached.isComplete then
      return none
    else
      let answer ← askInner (source.lookup collection field)
      remember (collection, field) answer
      return answer

/-- All definitions that are known after a prefetch, unless one has succeeded before. -/
def cachedAll (source : ChoiceSource σ) : Step (Cached σ) (List FieldDefinition) := do
  if !(← Step.state).isComplete then
    discard (prefetch source)
  return (← Step.state).offered

def cached (source : ChoiceSource σ) : ChoiceSource (Cached σ) where
  lookup := cachedLookup source
  all := cachedAll source

end ChoiceSource

end Typescribe
