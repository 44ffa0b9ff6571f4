import Typescribe.Proofs.Choices.Database
import Typescribe.Proofs.Choices.Rest

/-!
This module contains the sources whose lookups do not look at the log: those of known definitions and
of databases, those of servers that do not look at it, and the caches of such sources.
-/

namespace Typescribe

variable {σ : Type}

theorem Rest.Client.isBlind_get {client : Rest.Client σ}
    (transport : ∀ request, Step.IsBlind (client.transport request)) (path : String) :
    Step.IsBlind (client.get path) := by
  apply (Snapshot.isPlain_orFail (client.target path)).isBlind.bind
  rintro ⟨address, authorization⟩
  apply (transport _).bind
  intro reply
  split
  · exact (Snapshot.isPlain_orFail _).isBlind
  · exact .fail _

namespace ChoiceSource

variable {source : ChoiceSource σ}

/-- A source that does not look at the log. Its answers can depend on its state. -/
def IsBlind (source : ChoiceSource σ) : Prop :=
  ∀ collection field, Step.IsBlind (source.lookup collection field)

theorem isBlind_unimplemented : (unimplemented : ChoiceSource σ).IsBlind :=
  fun _ _ => .fail _

theorem isBlind_ofDefinitions (definitions : List FieldDefinition) :
    (ofDefinitions definitions : ChoiceSource σ).IsBlind :=
  fun _ _ => .pure _

theorem isBlind_ofDatabase (db : Database) : (ofDatabase db : ChoiceSource σ).IsBlind :=
  fun collection field => (isPlain_lookup db collection field).isBlind

theorem isBlind_ofServer {client : Rest.Client σ}
    (transport : ∀ request, Step.IsBlind (client.transport request)) :
    (ofServer client).IsBlind := by
  intro collection field
  change Step.IsBlind (restLookup client collection field)
  unfold restLookup
  apply (Rest.Client.isBlind_get transport _).attempt.bind
  intro got
  split
  · exact (isPlain_definitionOf _ _ _).isBlind.bind fun d => .pure (some d)
  · exact .pure none
  · split
    · exact .pure none
    · split
      · exact .fail _
      · exact .fail _

theorem IsBlind.cached (h : source.IsBlind) : source.cached.IsBlind := by
  intro collection field
  change Step.IsBlind (source.cachedLookup collection field)
  unfold cachedLookup
  apply Step.IsBlind.state.bind
  intro cached
  split
  · exact .pure _
  · split
    · exact .pure none
    · apply (h collection field).within.bind
      intro answer
      unfold remember
      apply (Step.IsBlind.state.bind fun _ => .setState _).bind
      exact fun _ => .pure answer

theorem IsBlind.safeLookup (h : source.IsBlind) (collection field : String) :
    Step.IsBlind (source.safeLookup collection field) := by
  unfold ChoiceSource.safeLookup
  apply (h collection field).attempt.bind
  intro result
  split
  · exact .pure _
  · exact (Step.IsBlind.write _).bind fun _ => .pure none

end ChoiceSource

end Typescribe
