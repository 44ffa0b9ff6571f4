import Typescribe.Choices.Cache
import Typescribe.Declaration.Enum
import Typescribe.Proofs.Choices.Source
import Typescribe.Proofs.Ordered

/-!
This module contains what the uses of a cache do to it, and that it never loses sight of its source:
whatever the cache was used for before, it offers for a field what the source offers.
-/

namespace Typescribe

open Declaration (enumType?)

variable {σ τ α : Type}

namespace ChoiceSource

/--
What a source says about one field, whenever it is asked: the answer to a lookup. If the list of all
definitions can be had, it agrees with the answer, but it can lack fields without choices.
-/
structure AnswersAt (source : ChoiceSource σ) (collection field : String)
    (answer : Except Fault (Option FieldDefinition)) : Prop where
  lookup : ∀ s, ((source.lookup collection field).run.run s).1 = answer
  listed : ∀ s definitions t, Step.Yields source.all s definitions t →
    ∀ d ∈ definitions, (d.collection, d.field) = (collection, field) → answer = .ok (some d)
  unlisted : ∀ s definitions t, Step.Yields source.all s definitions t →
    (∀ d ∈ definitions, (d.collection, d.field) ≠ (collection, field)) →
      ∀ d, answer = .ok (some d) → d.choices = []

/-- Two sources, each asked in a session of its own, give a field the same type by its choices. -/
def SameOffer (first : ChoiceSource σ) (s : Session σ) (second : ChoiceSource τ) (t : Session τ)
    (collection field : String) : Prop :=
  ∃ a s' b t', Step.Yields (first.safeLookup collection field) s a s'
    ∧ Step.Yields (second.safeLookup collection field) t b t' ∧ enumType? a = enumType? b

theorem sameOffer_iff {first : ChoiceSource σ} {s : Session σ} {second : ChoiceSource τ}
    {t : Session τ} {collection field : String} :
    first.SameOffer s second t collection field
      ↔ enumType? (safeAnswer ((first.lookup collection field).run.run s).1)
        = enumType? (safeAnswer ((second.lookup collection field).run.run t).1) := by
  obtain ⟨s', found⟩ := first.exists_yields_safeLookup_eq collection field s
  obtain ⟨t', other⟩ := second.exists_yields_safeLookup_eq collection field t
  constructor
  · rintro ⟨a, _, b, _, foundA, foundB, same⟩
    cases found.symm.trans foundA
    cases other.symm.trans foundB
    exact same
  · intro same
    exact ⟨_, s', _, t', found, other, same⟩

theorem enumType?_eq_none {definition : Option FieldDefinition}
    (h : ∀ d, definition = some d → d.choices = []) : enumType? definition = .ok none := by
  cases definition with
  | none => rfl
  | some d => rw [enumType?, h d rfl, List.isEmpty_nil, if_pos rfl]

/-! ### The uses of a cache -/

theorem run_prefetch (source : ChoiceSource σ) (s : Session (Cached σ)) :
    source.prefetch.run.run s
      = match source.all.run.run ⟨s.state.inner, s.log⟩ with
        | (.error fault, t) =>
          (.ok false, ⟨{ s.state with inner := t.state }, t.log ++ [{
            level := .warning
            origin := .choices
            message :=
              "Choice prefetch failed, falling back to per-field lookups: " ++ fault.message }]⟩)
        | (.ok definitions, t) =>
          (.ok true, ⟨({ s.state with inner := t.state }).complete definitions, t.log ++ [{
            level := .info
            origin := .choices
            message := "Prefetched " ++ toString definitions.length
              ++ " field definitions with choices" }]⟩) := by
  unfold prefetch
  rw [Step.run_bind, Step.run_attempt, askInner, Step.run_within]
  rcases source.all.run.run ⟨s.state.inner, s.log⟩ with ⟨fault | definitions, t⟩
  · rfl
  · rfl

theorem run_cachedLookup (source : ChoiceSource σ) (collection field : String)
    (s : Session (Cached σ)) :
    (source.cachedLookup collection field).run.run s
      = match Ordered.get? (collection, field) s.state.known with
        | some answer => (.ok answer, s)
        | none =>
          if s.state.isComplete then (.ok none, s)
          else
            match (source.lookup collection field).run.run ⟨s.state.inner, s.log⟩ with
            | (.error fault, t) => (.error fault, ⟨{ s.state with inner := t.state }, t.log⟩)
            | (.ok answer, t) =>
              (.ok answer, ⟨{ s.state with
                inner := t.state
                known := Ordered.put (collection, field) answer s.state.known }, t.log⟩) := by
  unfold cachedLookup
  rw [Step.run_bind, Step.run_state]
  simp only
  rcases Ordered.get? (collection, field) s.state.known with _ | answer
  · simp only
    split
    · rfl
    · rw [Step.run_bind, askInner, Step.run_within]
      rcases (source.lookup collection field).run.run ⟨s.state.inner, s.log⟩
        with ⟨fault | answer, t⟩
      · rfl
      · rfl
  · rfl

theorem run_cachedAll (source : ChoiceSource σ) (s : Session (Cached σ)) :
    (source.cachedAll.run.run s).2
      = if s.state.isComplete then s else (source.prefetch.run.run s).2 := by
  unfold cachedAll
  rw [Step.run_bind, Step.run_state]
  cases h : s.state.isComplete
  · simp only [h, Bool.not_false, if_true, Bool.false_eq_true, if_false, bind_pure_comp]
    rw [Step.run_bind, Step.run_discard, run_prefetch]
    rcases source.all.run.run ⟨s.state.inner, s.log⟩ with ⟨fault | definitions, t⟩
    · rfl
    · rfl
  · simp only [h]
    rfl

end ChoiceSource

/-- A use of a cache. -/
inductive CacheUse where
  | prefetch
  | lookup (collection field : String)
  | all
deriving DecidableEq, Repr

namespace CacheUse

/-- The session after a use. A lookup that fails ends the use, but not the session. -/
def after (source : ChoiceSource σ) (s : Session (Cached σ)) : CacheUse → Session (Cached σ)
  | prefetch => (source.prefetch.run.run s).2
  | lookup collection field => ((source.cached.lookup collection field).run.run s).2
  | all => (source.cached.all.run.run s).2

def afterAll (source : ChoiceSource σ) (uses : List CacheUse) (s : Session (Cached σ)) :
    Session (Cached σ) :=
  uses.foldl (after source) s

end CacheUse

namespace Cached

/-- What a use can do to a cache: nothing, or a request to the source and what becomes of it. -/
inductive Moves (source : ChoiceSource σ) : Cached σ → Cached σ → Prop where
  | stay {cached : Cached σ} : Moves source cached cached
  | failedLookup {cached : Cached σ} {collection field : String} {log : List Log.Record}
    {fault : Fault} {t : Session σ}
    (unknown : Ordered.get? (collection, field) cached.known = none)
    (incomplete : cached.isComplete = false)
    (run : (source.lookup collection field).run.run ⟨cached.inner, log⟩ = (.error fault, t)) :
    Moves source cached { cached with inner := t.state }
  | lookup {cached : Cached σ} {collection field : String} {log : List Log.Record}
    {answer : Option FieldDefinition} {t : Session σ}
    (unknown : Ordered.get? (collection, field) cached.known = none)
    (incomplete : cached.isComplete = false)
    (run : (source.lookup collection field).run.run ⟨cached.inner, log⟩ = (.ok answer, t)) :
    Moves source cached { cached with
      inner := t.state
      known := Ordered.put (collection, field) answer cached.known }
  | failedAll {cached : Cached σ} {log : List Log.Record} {fault : Fault} {t : Session σ}
    (run : source.all.run.run ⟨cached.inner, log⟩ = (.error fault, t)) :
    Moves source cached { cached with inner := t.state }
  | all {cached : Cached σ} {log : List Log.Record} {definitions : List FieldDefinition}
    {t : Session σ} (run : source.all.run.run ⟨cached.inner, log⟩ = (.ok definitions, t)) :
    Moves source cached (({ cached with inner := t.state } : Cached σ).complete definitions)

theorem moves_prefetch (source : ChoiceSource σ) (s : Session (Cached σ)) :
    Moves source s.state (source.prefetch.run.run s).2.state := by
  rw [ChoiceSource.run_prefetch]
  rcases run : source.all.run.run ⟨s.state.inner, s.log⟩ with ⟨fault | definitions, t⟩
  · exact .failedAll run
  · exact .all run

theorem moves_cachedLookup (source : ChoiceSource σ) (collection field : String)
    (s : Session (Cached σ)) :
    Moves source s.state ((source.cachedLookup collection field).run.run s).2.state := by
  rw [ChoiceSource.run_cachedLookup]
  split
  · exact .stay
  · next unknown =>
    split
    · exact .stay
    · next incomplete =>
      rcases run : (source.lookup collection field).run.run ⟨s.state.inner, s.log⟩
        with ⟨fault | answer, t⟩
      · exact .failedLookup unknown (eq_false_of_ne_true incomplete) run
      · exact .lookup unknown (eq_false_of_ne_true incomplete) run

theorem moves_after (source : ChoiceSource σ) (use : CacheUse) (s : Session (Cached σ)) :
    Moves source s.state (use.after source s).state := by
  cases use with
  | prefetch => exact moves_prefetch source s
  | lookup collection field => exact moves_cachedLookup source collection field s
  | all =>
    change Moves source s.state (source.cachedAll.run.run s).2.state
    rw [ChoiceSource.run_cachedAll]
    split
    · exact .stay
    · exact moves_prefetch source s

/-- What every move of a cache keeps, every sequence of uses keeps. -/
theorem afterAll_of_moves {source : ChoiceSource σ} {P : Cached σ → Prop}
    (step : ∀ before after, P before → Moves source before after → P after)
    (uses : List CacheUse) (s : Session (Cached σ)) (h : P s.state) :
    P (CacheUse.afterAll source uses s).state := by
  induction uses generalizing s with
  | nil => exact h
  | cons use uses ih => exact ih (use.after source s) (step _ _ h (moves_after source use s))

theorem get?_complete (cached : Cached σ) (definitions : List FieldDefinition)
    (key : String × String) :
    Ordered.get? key (cached.complete definitions).known
      = ((definitions.reverse.find? fun d => (d.collection, d.field) = key).map some).or
          (Ordered.get? key cached.known) :=
  Ordered.get?_putAll (fun d : FieldDefinition => (d.collection, d.field)) some definitions
    cached.known key

/-! ### What a cache knows -/

/--
What a cache knows about a field is what the source answers. A complete cache is silent about a field
only if that has no choices.
-/
structure KnowsAt (collection field : String) (answer : Except Fault (Option FieldDefinition))
    (cached : Cached σ) : Prop where
  known : ∀ definition, Ordered.get? (collection, field) cached.known = some definition →
    answer = .ok definition
  silent : cached.isComplete → Ordered.get? (collection, field) cached.known = none →
    ∀ d, answer = .ok (some d) → d.choices = []

variable {source : ChoiceSource σ} {collection field : String}
  {answer : Except Fault (Option FieldDefinition)} {before after : Cached σ}

theorem knowsAt_fresh (inner : σ) : KnowsAt collection field answer ({ inner } : Cached σ) := by
  constructor
  · intro definition h
    cases h
  · intro h
    cases h

theorem KnowsAt.complete {definitions : List FieldDefinition} {log : List Log.Record}
    {t : Session σ} (agrees : source.AnswersAt collection field answer)
    (h : KnowsAt collection field answer before)
    (run : Step.Yields source.all ⟨before.inner, log⟩ definitions t) :
    KnowsAt collection field answer
      (({ before with inner := t.state } : Cached σ).complete definitions) := by
  constructor
  · intro definition found
    rw [get?_complete] at found
    rcases last : definitions.reverse.find? fun d => (d.collection, d.field) = (collection, field)
      with _ | d
    · rw [last] at found
      exact h.known definition found
    · rw [last] at found
      cases found
      have listed := List.mem_reverse.mp (List.mem_of_find?_eq_some last)
      have same := List.find?_some last
      exact agrees.listed _ _ _ run d listed (of_decide_eq_true same)
  · intro _ missing
    rw [get?_complete, Option.or_eq_none_iff, Option.map_eq_none_iff, List.find?_eq_none] at missing
    apply agrees.unlisted _ _ _ run
    intro d listed same
    exact missing.1 d (List.mem_reverse.mpr listed) (decide_eq_true same)

theorem KnowsAt.moves (agrees : source.AnswersAt collection field answer)
    (h : KnowsAt collection field answer before) (move : Moves source before after) :
    KnowsAt collection field answer after := by
  cases move with
  | stay => exact h
  | failedLookup => exact ⟨h.known, h.silent⟩
  | failedAll => exact ⟨h.known, h.silent⟩
  | all run => exact h.complete agrees run
  | @lookup other otherField log found t unknown incomplete run =>
    constructor
    · intro definition
      rw [Ordered.get?_put]
      split
      · next same =>
        intro here
        cases same
        cases here
        exact (agrees.lookup _).symm.trans (congrArg Prod.fst run)
      · exact h.known definition
    · intro complete
      rw [incomplete] at complete
      cases complete

theorem sameOffer_of_knowsAt {other : ChoiceSource τ}
    (agrees : source.AnswersAt collection field answer) (s : Session (Cached σ)) (t : Session τ)
    (direct : ((other.lookup collection field).run.run t).1 = answer)
    (h : KnowsAt collection field answer s.state) :
    source.cached.SameOffer s other t collection field := by
  rw [ChoiceSource.sameOffer_iff]
  change enumType? (ChoiceSource.safeAnswer
    ((source.cachedLookup collection field).run.run s).1) = _
  rw [direct, ChoiceSource.run_cachedLookup]
  split
  · next definition known => rw [h.known definition known]
  · next unknown =>
    split
    · next complete =>
      have nothing : ∀ d, ChoiceSource.safeAnswer answer = some d → d.choices = [] := by
        intro d offered
        cases answer with
        | error fault => cases offered
        | ok definition => exact h.silent complete unknown d (congrArg Except.ok offered)
      rw [ChoiceSource.enumType?_eq_none nothing]
      rfl
    · have same := agrees.lookup ⟨s.state.inner, s.log⟩
      rcases run : (source.lookup collection field).run.run ⟨s.state.inner, s.log⟩
        with ⟨fault | found, u⟩
      · rw [run] at same
        rw [← same]
      · rw [run] at same
        rw [← same]

end Cached

namespace ChoiceSource

/-! ### After a prefetch -/

theorem fst_run_cachedLookup_of_fresh (source : ChoiceSource σ) {collection field : String}
    {t : Session (Cached σ)}
    (known : t.state.known = []) (incomplete : t.state.isComplete = false) :
    ((source.cachedLookup collection field).run.run t).1
      = ((source.lookup collection field).run.run ⟨t.state.inner, t.log⟩).1 := by
  rw [run_cachedLookup, known, incomplete]
  rcases (source.lookup collection field).run.run ⟨t.state.inner, t.log⟩ with ⟨fault | answer, u⟩
  · rfl
  · rfl

theorem fst_run_cachedLookup_of_complete (source : ChoiceSource σ) {collection field : String}
    {t : Session (Cached σ)} {inner : σ} {definitions : List FieldDefinition}
    (h : t.state = ({ inner } : Cached σ).complete definitions) :
    ((source.cachedLookup collection field).run.run t).1
      = .ok (definitions.reverse.find? fun d => (d.collection, d.field) = (collection, field)) := by
  rw [run_cachedLookup, h, Cached.get?_complete]
  cases definitions.reverse.find? fun d => (d.collection, d.field) = (collection, field) with
  | none => rfl
  | some d => rfl

/-- After a prefetch that succeeds, the last definition of a field is what is found. -/
theorem exists_yields_prefetch_of_all (source : ChoiceSource σ) {inner : σ}
    {log : List Log.Record} {definitions : List FieldDefinition}
    (h : (source.all.run.run ⟨inner, log⟩).1 = .ok definitions) :
    ∃ t, Step.Yields source.prefetch ⟨{ inner }, log⟩ true t
      ∧ ∀ collection field, ((source.cachedLookup collection field).run.run t).1
          = .ok (definitions.reverse.find? fun d =>
              (d.collection, d.field) = (collection, field)) := by
  have ending := run_prefetch source ⟨{ inner }, log⟩
  rcases ran : source.all.run.run ⟨inner, log⟩ with ⟨result, u⟩
  rw [ran] at h ending
  cases h
  exact ⟨_, ending, fun _ _ => fst_run_cachedLookup_of_complete source rfl⟩

/--
A prefetch leaves the type of a field as it is if a lookup offers the same in every session, and the
last definition of the field among all, if these can be had, gives the type of that offer.
-/
theorem exists_sameOffer_prefetched {source : ChoiceSource σ} {collection field : String}
    {offer : Option FieldDefinition}
    (single : ∀ s, safeAnswer ((source.lookup collection field).run.run s).1 = offer) {inner : σ}
    {log : List Log.Record}
    (bulk : ∀ definitions, (source.all.run.run ⟨inner, log⟩).1 = .ok definitions →
      enumType? (definitions.reverse.find? fun d => (d.collection, d.field) = (collection, field))
        = enumType? offer)
    (s : Session σ) :
    ∃ succeeded t, Step.Yields source.prefetch ⟨{ inner }, log⟩ succeeded t
      ∧ source.cached.SameOffer t source s collection field := by
  have type {t : Session (Cached σ)} : source.cached.SameOffer t source s collection field
      ↔ enumType? (safeAnswer ((source.cachedLookup collection field).run.run t).1)
        = enumType? offer := by
    rw [sameOffer_iff, single]
    rfl
  rcases ran : source.all.run.run ⟨inner, log⟩ with ⟨fault | definitions, u⟩
  · have ending := run_prefetch source ⟨{ inner }, log⟩
    rw [ran] at ending
    refine ⟨false, _, ending, type.mpr ?_⟩
    rw [fst_run_cachedLookup_of_fresh source rfl rfl, single]
  · have all := congrArg Prod.fst ran
    obtain ⟨t, ending, found⟩ := exists_yields_prefetch_of_all source all
    refine ⟨true, t, ending, type.mpr ?_⟩
    rw [found collection field, ← bulk definitions all]
    rfl

end ChoiceSource

end Typescribe
