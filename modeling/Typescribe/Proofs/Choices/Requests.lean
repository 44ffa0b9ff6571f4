import Typescribe.Proofs.Choices.Cache

/-!
This module contains the requests that a cache makes to its source, and the refinement of the source
by the cache: it offers for each field what the source offers, it asks for no field twice, and for no
single field once it knows all of them.
-/

namespace Typescribe

variable {σ τ α : Type}

/-- A request to a source of choices, and whether it ended well. -/
inductive ChoiceRequest where
  | lookup (collection field : String) (succeeded : Bool)
  | all (succeeded : Bool)
deriving DecidableEq, Repr

/-- The state of a source, and the requests to it, the oldest first. -/
structure Recorded (σ : Type) where
  inner : σ
  requests : List ChoiceRequest := []

namespace ChoiceSource

def record (request : Bool → ChoiceRequest) (step : Step σ α) : Step (Recorded σ) α :=
  fun s =>
    let (result, t) := step ⟨s.state.inner, s.log⟩
    (result, ⟨⟨t.state, s.state.requests ++ [request result.isOk]⟩, t.log⟩)

/-- The source with a record of the requests to it. -/
def recorded (source : ChoiceSource σ) : ChoiceSource (Recorded σ) where
  lookup collection field := record (.lookup collection field) (source.lookup collection field)
  all := record .all source.all

variable {source : ChoiceSource σ} {collection field : String}

theorem run_record (request : Bool → ChoiceRequest) (step : Step σ α) (s : Session (Recorded σ)) :
    (record request step).run.run s
      = ((step.run.run ⟨s.state.inner, s.log⟩).1,
          ⟨⟨(step.run.run ⟨s.state.inner, s.log⟩).2.state,
            s.state.requests ++ [request (step.run.run ⟨s.state.inner, s.log⟩).1.isOk]⟩,
            (step.run.run ⟨s.state.inner, s.log⟩).2.log⟩) := rfl

theorem requests_of_run_record {request : Bool → ChoiceRequest} {step : Step σ α}
    {s t : Session (Recorded σ)} {result : Except Fault α}
    (run : (record request step).run.run s = (result, t)) :
    t.state.requests = s.state.requests ++ [request result.isOk] := by
  rw [run_record] at run
  cases run
  rfl

theorem AnswersAt.recorded {answer : Except Fault (Option FieldDefinition)}
    (h : source.AnswersAt collection field answer) :
    source.recorded.AnswersAt collection field answer := by
  have inner : ∀ {s definitions t}, Step.Yields source.recorded.all s definitions t →
      ∃ u, Step.Yields source.all ⟨s.state.inner, s.log⟩ definitions u :=
    fun run => ⟨_, Prod.ext (congrArg (fun ending => ending.1) run) rfl⟩
  constructor
  · exact fun s => h.lookup ⟨s.state.inner, s.log⟩
  · intro s definitions t run
    obtain ⟨u, run⟩ := inner run
    exact h.listed _ _ _ run
  · intro s definitions t run
    obtain ⟨u, run⟩ := inner run
    exact h.unlisted _ _ _ run

end ChoiceSource

namespace Cached

/-- Once the list of all definitions was had, no single field is asked for. -/
def AsksNoFieldAfterAll (requests : List ChoiceRequest) : Prop :=
  requests.Pairwise fun earlier later =>
    earlier = .all true → ∀ collection field succeeded, later ≠ .lookup collection field succeeded

theorem AsksNoFieldAfterAll.concat {requests : List ChoiceRequest} {request : ChoiceRequest}
    (h : AsksNoFieldAfterAll requests)
    (fits : .all true ∉ requests
      ∨ ∀ collection field succeeded, request ≠ .lookup collection field succeeded) :
    AsksNoFieldAfterAll (requests ++ [request]) := by
  refine List.pairwise_append.mpr ⟨h, List.pairwise_singleton _ _, ?_⟩
  intro earlier before later last all
  rw [List.mem_singleton.mp last]
  rcases fits with never | other
  · exact absurd (all ▸ before) never
  · exact other

/-- A cache that asks its source no more than it has to. -/
structure IsThrifty (cached : Cached (Recorded σ)) : Prop where
  incomplete : cached.isComplete = false → .all true ∉ cached.inner.requests
  known : ∀ collection field, .lookup collection field true ∈ cached.inner.requests →
    Ordered.get? (collection, field) cached.known ≠ none
  once : ∀ collection field, cached.inner.requests.count (.lookup collection field true) ≤ 1
  settled : AsksNoFieldAfterAll cached.inner.requests

theorem isThrifty_fresh (inner : σ) : IsThrifty ({ inner := ⟨inner, []⟩ } : Cached (Recorded σ)) := by
  constructor
  · exact fun _ => List.not_mem_nil
  · intro collection field h
    cases h
  · exact fun _ _ => Nat.zero_le 1
  · exact List.Pairwise.nil

variable {source : ChoiceSource σ} {before after : Cached (Recorded σ)}

/-- A request that failed leaves the cache as it was. -/
theorem IsThrifty.failed {inner : Recorded σ} {request : ChoiceRequest} (h : IsThrifty before)
    (requests : inner.requests = before.inner.requests ++ [request])
    (failedLookup : ∀ collection field, request ≠ .lookup collection field true)
    (failedAll : request ≠ .all true)
    (fits : .all true ∉ before.inner.requests
      ∨ ∀ collection field succeeded, request ≠ .lookup collection field succeeded) :
    IsThrifty ({ before with inner } : Cached (Recorded σ)) := by
  have same : ∀ collection field, ChoiceRequest.lookup collection field true ∉ [request] :=
    fun collection field last => failedLookup collection field (List.mem_singleton.mp last).symm
  constructor
  · intro incomplete
    rw [requests, List.mem_append, List.mem_singleton, not_or]
    exact ⟨h.incomplete incomplete, fun last => failedAll last.symm⟩
  · intro collection field asked
    rw [requests, List.mem_append] at asked
    exact h.known collection field (asked.resolve_right (same collection field))
  · intro collection field
    rw [requests, List.count_append, List.count_eq_zero.mpr (same collection field), Nat.add_zero]
    exact h.once collection field
  · rw [requests]
    exact h.settled.concat fits

theorem IsThrifty.lookup {inner : Recorded σ} {collection field : String}
    {answer : Option FieldDefinition} (h : IsThrifty before)
    (unknown : Ordered.get? (collection, field) before.known = none)
    (incomplete : before.isComplete = false)
    (requests : inner.requests = before.inner.requests ++ [.lookup collection field true]) :
    IsThrifty { before with
      inner
      known := Ordered.put (collection, field) answer before.known } := by
  have first : .lookup collection field true ∉ before.inner.requests :=
    fun asked => h.known collection field asked unknown
  constructor
  · intro _
    rw [requests, List.mem_append, List.mem_singleton, not_or]
    exact ⟨h.incomplete incomplete, by simp⟩
  · intro other otherField asked
    rw [requests, List.mem_append, List.mem_singleton] at asked
    rw [Ordered.get?_put]
    split
    · simp
    · next different =>
      rcases asked with earlier | last
      · exact h.known other otherField earlier
      · cases last
        exact absurd rfl different
  · intro other otherField
    rw [requests, List.count_append, List.count_singleton]
    split
    · next same =>
      have fresh := List.count_eq_zero.mpr first
      rw [eq_of_beq same] at fresh
      omega
    · exact h.once other otherField
  · rw [requests]
    exact h.settled.concat (.inl (h.incomplete incomplete))

theorem IsThrifty.all {inner : Recorded σ} {definitions : List FieldDefinition}
    (h : IsThrifty before)
    (requests : inner.requests = before.inner.requests ++ [.all true]) :
    IsThrifty (({ before with inner } : Cached (Recorded σ)).complete definitions) := by
  constructor
  · intro incomplete
    cases incomplete
  · intro collection field asked
    change .lookup collection field true ∈ inner.requests at asked
    rw [requests, List.mem_append, List.mem_singleton] at asked
    have known := h.known collection field (asked.resolve_right (by simp))
    rw [get?_complete, Ne, Option.or_eq_none_iff]
    exact fun missing => known missing.2
  · intro collection field
    change inner.requests.count (.lookup collection field true) ≤ 1
    rw [requests, List.count_append]
    exact h.once collection field
  · change AsksNoFieldAfterAll inner.requests
    rw [requests]
    exact h.settled.concat (.inr (by simp))

theorem IsThrifty.moves (h : IsThrifty before) (move : Moves source.recorded before after) :
    IsThrifty after := by
  cases move with
  | stay => exact h
  | failedLookup unknown incomplete run =>
    exact h.failed (ChoiceSource.requests_of_run_record run)
      (by simp [Except.isOk, Except.toBool]) (by simp) (.inl (h.incomplete incomplete))
  | lookup unknown incomplete run =>
    exact h.lookup unknown incomplete (ChoiceSource.requests_of_run_record run)
  | failedAll run =>
    exact h.failed (ChoiceSource.requests_of_run_record run)
      (by simp) (by simp [Except.isOk, Except.toBool]) (.inr (by simp))
  | all run => exact h.all (ChoiceSource.requests_of_run_record run)

/--
A cache refines its source. After any uses it offers for each field what the source offers; a
prefetch that succeeds has had the list of all definitions from the source, after which no single
field is asked for; and no field gets a second answer from the source.
-/
theorem sameOffer_afterAll {source : ChoiceSource σ}
    {answer : String → String → Except Fault (Option FieldDefinition)}
    (agrees : ∀ collection field, source.AnswersAt collection field (answer collection field))
    (inner : σ) (log : List Log.Record) (uses : List CacheUse) :
    let session := CacheUse.afterAll source.recorded uses ⟨{ inner := ⟨inner, []⟩ }, log⟩
    (∀ collection field s, source.recorded.cached.SameOffer session source s collection field)
      ∧ (∀ t, Step.Yields source.recorded.prefetch session true t →
          t.state.inner.requests = session.state.inner.requests ++ [.all true])
      ∧ AsksNoFieldAfterAll session.state.inner.requests
      ∧ ∀ collection field,
          session.state.inner.requests.count (.lookup collection field true) ≤ 1 := by
  intro session
  have thrifty : IsThrifty session.state :=
    afterAll_of_moves (fun _ _ => IsThrifty.moves) uses _ (isThrifty_fresh inner)
  refine ⟨?_, ?_, thrifty.settled, thrifty.once⟩
  · intro collection field s
    have knows : KnowsAt collection field (answer collection field) session.state :=
      afterAll_of_moves (fun _ _ => KnowsAt.moves (agrees collection field).recorded) uses _
        (knowsAt_fresh _)
    exact sameOffer_of_knowsAt (agrees collection field).recorded session s
      ((agrees collection field).lookup s) knows
  · intro t prefetched
    unfold Step.Yields at prefetched
    rw [ChoiceSource.run_prefetch] at prefetched
    rcases run : source.recorded.all.run.run ⟨session.state.inner, session.log⟩
      with ⟨fault | definitions, u⟩
    · rw [run] at prefetched
      cases prefetched
    · rw [run] at prefetched
      cases prefetched
      exact ChoiceSource.requests_of_run_record run

def statusDefinition : FieldDefinition where
  collection := "posts"
  field := "status"
  choices := [⟨.text "draft", none⟩, ⟨.text "live", none⟩]

/-- A source that refuses the list of all definitions once, and that cannot look up one field. -/
def unsteady : ChoiceSource Bool where
  lookup collection field :=
    if collection = "posts" ∧ field = "status" then return some statusDefinition
    else if field = "body" then Step.fail (.lookup (.stated "down"))
    else return none
  all := do
    let isAskedAgain ← Step.state
    Step.setState true
    if isAskedAgain then return [statusDefinition] else Step.fail (.lookup (.stated "down"))

theorem answersAt_unsteady (collection field : String) :
    unsteady.AnswersAt collection field
      ((unsteady.lookup collection field).run.run ⟨false, []⟩).1 := by
  have all : ∀ {s definitions t}, Step.Yields unsteady.all s definitions t →
      definitions = [statusDefinition] := by
    intro s definitions t run
    obtain ⟨isAskedAgain, _, -, run⟩ := Step.yields_bind.mp run
    obtain ⟨_, _, -, run⟩ := Step.yields_bind.mp run
    cases isAskedAgain with
    | false => exact absurd run Step.not_yields_fail
    | true => exact (Step.yields_pure.mp run).1.symm
  constructor
  · intro s
    unfold unsteady
    simp only
    split
    · rfl
    · split
      · rfl
      · rfl
  · intro s definitions t run d listed same
    cases all run
    cases List.mem_singleton.mp listed
    cases same
    rfl
  · intro s definitions t run missing d answer
    cases all run
    have other : ¬(collection = "posts" ∧ field = "status") := by
      rintro ⟨rfl, rfl⟩
      exact missing statusDefinition List.mem_cons_self rfl
    unfold unsteady at answer
    simp only [if_neg other] at answer
    split at answer
    · cases answer
    · cases answer

theorem sameOffer_unsteady :
    let uses := [.all, .lookup "posts" "status", .lookup "posts" "body", .lookup "posts" "status",
      .prefetch, .lookup "posts" "body", .all]
    let session := CacheUse.afterAll unsteady.recorded uses ⟨{ inner := ⟨false, []⟩ }, []⟩
    session.state.inner.requests
        = [.all false, .lookup "posts" "status" true, .lookup "posts" "body" false, .all true]
      ∧ AsksNoFieldAfterAll session.state.inner.requests
      ∧ unsteady.recorded.cached.SameOffer session unsteady ⟨false, []⟩ "posts" "status"
      ∧ unsteady.recorded.cached.SameOffer session unsteady ⟨false, []⟩ "posts" "body" := by
  intro uses session
  obtain ⟨same, -, settled, -⟩ := sameOffer_afterAll answersAt_unsteady false [] uses
  exact ⟨rfl, settled, same "posts" "status" _, same "posts" "body" _⟩

end Cached

end Typescribe
