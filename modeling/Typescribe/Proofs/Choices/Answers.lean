import Typescribe.Proofs.Choices.Cache

/-!
This module contains sources whose answers do not change in the course of a run: those that work on no
state, and the caches of such sources.
-/

namespace Typescribe.ChoiceSource

variable {σ : Type}

/-- What a source answers to the lookup of a field, by collection and field. -/
abbrev Answers := String → String → Except Fault (Option FieldDefinition)

/--
From each of the given states on, which no lookup leaves, a source has one answer for a field. An
answer can be a failure, with any cause.
-/
structure AnswersFrom (source : ChoiceSource σ) (kept : σ → Prop) (answer : Answers) : Prop where
  lookup : ∀ collection field s, kept s.state →
    ((source.lookup collection field).run.run s).1 = answer collection field
  stays : ∀ collection field s, kept s.state →
    kept ((source.lookup collection field).run.run s).2.state

/-- The source with the given answers, which works on no state. -/
def answering (answer : Answers) : ChoiceSource σ where
  lookup collection field := Step.ofExcept (answer collection field)
  all := Step.failWith .notImplemented

theorem answersFrom_answering (answer : Answers) :
    (answering answer : ChoiceSource σ).AnswersFrom (fun _ => True) answer where
  lookup collection field s _ := by rw [answering, Step.run_ofExcept]
  stays _ _ _ _ := trivial

theorem answersFrom_ofDefinitions (definitions : List FieldDefinition) :
    (ofDefinitions definitions : ChoiceSource σ).AnswersFrom (fun _ => True)
      fun collection field => .ok (Ordered.get? (collection, field) (table definitions)) where
  lookup _ _ _ _ := rfl
  stays _ _ _ _ := trivial

theorem answersFrom_unimplemented :
    (unimplemented : ChoiceSource σ).AnswersFrom (fun _ => True)
      fun _ _ => .error (.foreign .notImplemented) where
  lookup _ _ _ _ := rfl
  stays _ _ _ _ := trivial

/-- A cache that asks for single fields only, and knows just what its source answered. -/
structure IsPartial (kept : σ → Prop) (answer : Answers) (cached : Cached σ) : Prop where
  inner : kept cached.inner
  incomplete : cached.isComplete = false
  known : ∀ key definition, Ordered.get? key cached.known = some definition →
    answer key.1 key.2 = .ok definition

theorem AnswersFrom.cached {source : ChoiceSource σ} {kept : σ → Prop} {answer : Answers}
    (h : source.AnswersFrom kept answer) :
    source.cached.AnswersFrom (IsPartial kept answer) answer where
  lookup collection field s partly := by
    change ((source.cachedLookup collection field).run.run s).1 = _
    have asked := h.lookup collection field ⟨s.state.inner, s.log⟩ partly.inner
    rw [run_cachedLookup]
    split
    · next definition found => exact (partly.known _ definition found).symm
    · rw [if_neg (by simp [partly.incomplete])]
      rcases run : (source.lookup collection field).run.run ⟨s.state.inner, s.log⟩
        with ⟨fault | definition, t⟩
      · exact (congrArg Prod.fst run).symm.trans asked
      · exact (congrArg Prod.fst run).symm.trans asked
  stays collection field s partly := by
    change IsPartial kept answer ((source.cachedLookup collection field).run.run s).2.state
    have asked := h.lookup collection field ⟨s.state.inner, s.log⟩ partly.inner
    have left := h.stays collection field ⟨s.state.inner, s.log⟩ partly.inner
    rw [run_cachedLookup]
    split
    · exact partly
    · rw [if_neg (by simp [partly.incomplete])]
      rcases run : (source.lookup collection field).run.run ⟨s.state.inner, s.log⟩
        with ⟨fault | definition, t⟩
      · rw [run] at left
        exact ⟨left, partly.incomplete, partly.known⟩
      · rw [run] at asked left
        refine ⟨left, partly.incomplete, ?_⟩
        intro key other
        rw [Ordered.get?_put]
        split
        · rintro ⟨⟩
          next same => exact same ▸ asked.symm
        · exact partly.known key other

/-- After a prefetch a cache answers without its source. -/
theorem answersFrom_cached_of_complete (source : ChoiceSource σ)
    (known : List ((String × String) × Option FieldDefinition)) :
    source.cached.AnswersFrom (fun cached => cached.isComplete = true ∧ cached.known = known)
      fun collection field => .ok ((Ordered.get? (collection, field) known).getD none) where
  lookup := by
    rintro collection field s ⟨complete, rfl⟩
    change ((source.cachedLookup collection field).run.run s).1 = _
    rw [run_cachedLookup]
    cases Ordered.get? (collection, field) s.state.known with
    | none => rw [if_pos complete]; rfl
    | some definition => rfl
  stays := by
    rintro collection field s ⟨complete, rfl⟩
    have unmoved : ((source.cached.lookup collection field).run.run s).2 = s := by
      change ((source.cachedLookup collection field).run.run s).2 = s
      rw [run_cachedLookup]
      cases Ordered.get? (collection, field) s.state.known with
      | none => rw [if_pos complete]
      | some definition => rfl
    rw [unmoved]
    exact ⟨complete, rfl⟩

end Typescribe.ChoiceSource
