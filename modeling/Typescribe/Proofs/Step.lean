import Mathlib.Data.List.Forall2
import Typescribe.Step

/-!
This module contains the runs of computations: what a run gives and the session it leaves, taken
apart along the steps of the computation. Runs that end well have a relation of their own.
-/

namespace Typescribe

variable {ε α β : Type}

theorem bind_eq_ok {x : Except ε α} {f : α → Except ε β} {b : β} :
    (x >>= f) = .ok b ↔ ∃ a, x = .ok a ∧ f a = .ok b := by
  cases x <;> simp [bind, Except.bind]

theorem eq_error_of_bind_pure {x : Except ε α} {f : α → β} {e : ε}
    (h : (x >>= fun a => pure (f a)) = .error e) : x = .error e := by
  cases x with
  | error =>
    cases h
    rfl
  | ok => cases h

theorem mapError_bind {ε' : Type} (g : ε → ε') (x : Except ε α) (f : α → Except ε β) :
    (x >>= f).mapError g = x.mapError g >>= fun a => (f a).mapError g := by
  cases x <;> rfl

theorem mapError_eq_ok {ε' : Type} {g : ε → ε'} {x : Except ε α} {a : α} :
    x.mapError g = .ok a ↔ x = .ok a := by
  cases x <;> simp [Except.mapError]

theorem mapError_map {ε' : Type} (g : ε → ε') (x : Except ε α) (f : α → β) :
    (x.map f).mapError g = x.mapError g >>= fun a => .ok (f a) := by
  cases x <;> rfl

theorem mapError_mapM {ε' : Type} (g : ε → ε') (f : α → Except ε β) (as : List α) :
    (as.mapM f).mapError g = as.mapM fun a => (f a).mapError g := by
  induction as with
  | nil => rfl
  | cons a as ih =>
    rw [List.mapM_cons, List.mapM_cons, mapError_bind, ← ih]
    congr 1
    funext b
    rw [mapError_bind]
    rfl

theorem mapM_congr {m : Type → Type} [Monad m] [LawfulMonad m] {f g : α → m β} {as : List α}
    (h : ∀ a ∈ as, f a = g a) : as.mapM f = as.mapM g := by
  induction as with
  | nil => rfl
  | cons a as ih =>
    rw [List.mapM_cons, List.mapM_cons, h a List.mem_cons_self,
      ih fun a ha => h a (List.mem_cons_of_mem _ ha)]

theorem map_eq_ok {x : Except ε α} {f : α → β} {b : β} :
    x.map f = .ok b ↔ ∃ a, x = .ok a ∧ f a = b := by
  cases x <;> simp [Except.map]

theorem forall₂_of_mapM_eq_ok {f : α → Except ε β} {as : List α} {bs : List β}
    (h : as.mapM f = .ok bs) : List.Forall₂ (fun a b => f a = .ok b) as bs := by
  induction as generalizing bs with
  | nil =>
    cases h
    exact .nil
  | cons a as ih =>
    rw [List.mapM_cons] at h
    obtain ⟨b, hb, h⟩ := bind_eq_ok.mp h
    obtain ⟨rest, hrest, h⟩ := bind_eq_ok.mp h
    cases h
    exact .cons hb (ih hrest)

theorem mapM_filter_eq_ok {f : α → Except ε β} {p : α → Bool} {q : β → Bool} {as : List α}
    {bs : List β} (h : as.mapM f = .ok bs) (same : ∀ a b, f a = .ok b → p a = q b) :
    (as.filter p).mapM f = .ok (bs.filter q) := by
  induction as generalizing bs with
  | nil =>
    cases h
    rfl
  | cons a as ih =>
    rw [List.mapM_cons] at h
    obtain ⟨b, hb, h⟩ := bind_eq_ok.mp h
    obtain ⟨rest, hrest, h⟩ := bind_eq_ok.mp h
    cases h
    have rest := ih hrest
    rw [List.filter_cons, List.filter_cons, ← same a b hb]
    split
    · rw [List.mapM_cons, hb, rest]
      rfl
    · exact rest

theorem exists_mapM_eq_ok {f : α → Except ε β} {as : List α} (h : ∀ a ∈ as, ∃ b, f a = .ok b) :
    ∃ bs, as.mapM f = .ok bs := by
  induction as with
  | nil => exact ⟨[], rfl⟩
  | cons a as ih =>
    obtain ⟨b, first⟩ := h a List.mem_cons_self
    obtain ⟨bs, others⟩ := ih fun a ha => h a (List.mem_cons_of_mem _ ha)
    refine ⟨b :: bs, ?_⟩
    rw [List.mapM_cons, first, others]
    rfl

theorem exists_of_mapM_eq_error {f : α → Except ε β} {as : List α} {e : ε}
    (h : as.mapM f = .error e) : ∃ a ∈ as, f a = .error e := by
  induction as with
  | nil => cases h
  | cons a as ih =>
    rw [List.mapM_cons] at h
    cases first : f a with
    | error =>
      rw [first] at h
      cases h
      exact ⟨a, List.mem_cons_self, first⟩
    | ok b =>
      rw [first] at h
      obtain ⟨failing, ha, failed⟩ := ih (eq_error_of_bind_pure h)
      exact ⟨failing, List.mem_cons_of_mem _ ha, failed⟩

theorem exists_of_mem_right {R : α → β → Prop} {as : List α} {bs : List β}
    (h : List.Forall₂ R as bs) {b : β} (hb : b ∈ bs) : ∃ a ∈ as, R a b := by
  induction h with
  | nil => cases hb
  | cons head tail ih =>
    cases List.mem_cons.mp hb with
    | inl hb => exact ⟨_, List.mem_cons_self, hb ▸ head⟩
    | inr hb =>
      obtain ⟨a, ha, related⟩ := ih hb
      exact ⟨a, List.mem_cons_of_mem _ ha, related⟩

theorem exists_of_mem_left {R : α → β → Prop} {as : List α} {bs : List β}
    (h : List.Forall₂ R as bs) {a : α} (ha : a ∈ as) : ∃ b ∈ bs, R a b :=
  exists_of_mem_right (R := flip R) (List.Forall₂.flip h) ha

theorem filterMap_eq_map_of_forall₂ {γ : Type} {R : α → β → Prop} {f : α → Option γ} {g : β → γ}
    {as : List α} {bs : List β} (h : List.Forall₂ R as bs) (same : ∀ a b, R a b → f a = some (g b)) :
    as.filterMap f = bs.map g := by
  induction h with
  | nil => rfl
  | cons head tail ih => rw [List.filterMap_cons_some (same _ _ head), ih, List.map_cons]

theorem map_eq_map_of_forall₂ {γ : Type} {R : α → β → Prop} {f : α → γ} {g : β → γ} {as : List α}
    {bs : List β} (h : List.Forall₂ R as bs) (same : ∀ a b, R a b → f a = g b) :
    as.map f = bs.map g := by
  induction h with
  | nil => rfl
  | cons head tail ih => rw [List.map_cons, List.map_cons, same _ _ head, ih]

theorem eq_filterMap_of_mapM_eq_ok {f : α → Except ε β} {as : List α} {bs : List β}
    (h : as.mapM f = .ok bs) : bs = as.filterMap fun a => (f a).toOption := by
  have kept := filterMap_eq_map_of_forall₂ (f := fun a => (f a).toOption) (g := fun b => b)
    (forall₂_of_mapM_eq_ok h) fun a b read => by rw [read]; rfl
  rw [kept, List.map_id']

theorem find?_of_forall₂ {R : α → β → Prop} {p : α → Bool} {q : β → Bool} {as : List α}
    {bs : List β} {b : β} (h : List.Forall₂ R as bs) (same : ∀ a b, R a b → p a = q b)
    (found : bs.find? q = some b) : ∃ a, as.find? p = some a ∧ R a b := by
  induction h with
  | nil => cases found
  | cons head tail ih =>
    rw [List.find?_cons] at found ⊢
    rw [same _ _ head]
    split at found
    · cases found
      exact ⟨_, rfl, head⟩
    · exact ih found

namespace Step

variable {σ τ : Type} {s t u : Session σ}

@[simp]
theorem run_pure (a : α) : (pure a : Step σ α).run.run s = (.ok a, s) := rfl

@[simp]
theorem run_fail (fault : Fault) : (fail fault : Step σ α).run.run s = (.error fault, s) := rfl

@[simp]
theorem run_failWith (cause : Cause) :
    (failWith cause : Step σ α).run.run s = (.error (.foreign cause), s) := rfl

@[simp]
theorem run_write (record : Log.Record) :
    (write record).run.run s = (.ok (), { s with log := s.log ++ [record] }) := rfl

@[simp]
theorem run_state : (state : Step σ σ).run.run s = (.ok s.state, s) := rfl

@[simp]
theorem run_setState (a : σ) : (setState a).run.run s = (.ok (), { s with state := a }) := rfl

@[simp]
theorem run_attempt (step : Step σ α) :
    (attempt step).run.run s = (.ok (step.run.run s).1, (step.run.run s).2) := rfl

theorem run_map (f : α → β) (step : Step σ α) :
    (f <$> step).run.run s = ((step.run.run s).1.map f, (step.run.run s).2) := by
  rw [ExceptT.run_map]
  rfl

theorem run_discard (step : Step σ α) :
    (discard step).run.run s = ((step.run.run s).1.map fun _ => (), (step.run.run s).2) :=
  run_map _ step

theorem run_within (part : σ → τ) (put : τ → σ → σ) (step : Step τ α) :
    (step.within part put).run.run s
      = ((step.run.run ⟨part s.state, s.log⟩).1,
          ⟨put (step.run.run ⟨part s.state, s.log⟩).2.state s.state,
            (step.run.run ⟨part s.state, s.log⟩).2.log⟩) := rfl

@[simp]
theorem run_ofExcept (x : Except Fault α) : (ofExcept x : Step σ α).run.run s = (x, s) := by
  cases x <;> rfl

theorem run_bind (step : Step σ α) (next : α → Step σ β) :
    (step >>= next).run.run s
      = match step.run.run s with
        | (.ok a, t) => (next a).run.run t
        | (.error fault, t) => (.error fault, t) := by
  rw [ExceptT.run_bind]
  change _ = match (step.run.run s : Except Fault α × Session σ) with | _ => _
  rw [StateT.run_bind]
  rcases step.run.run s with ⟨_ | _, _⟩ <;> rfl

theorem run_bind_of_ok {step : Step σ α} {next : α → Step σ β} {a : α}
    (h : step.run.run s = (.ok a, t)) : (step >>= next).run.run s = (next a).run.run t := by
  rw [run_bind, h]

theorem run_bind_of_error {step : Step σ α} {next : α → Step σ β} {fault : Fault}
    (h : step.run.run s = (.error fault, t)) :
    (step >>= next).run.run s = (.error fault, t) := by
  rw [run_bind, h]

theorem fst_run_bind_of_error {step : Step σ α} {next : α → Step σ β} {fault : Fault}
    (h : (step.run.run s).1 = .error fault) : ((step >>= next).run.run s).1 = .error fault := by
  rw [run_bind]
  rcases ran : step.run.run s with ⟨result, t⟩
  rw [ran] at h
  cases h
  rfl

/-- What a run leaves does not depend on a step whose runs all leave the same. -/
theorem snd_run_bind_congr {step : Step σ α} {next other : α → Step σ β}
    (h : ∀ a t, ((next a).run.run t).2 = ((other a).run.run t).2) :
    ((step >>= next).run.run s).2 = ((step >>= other).run.run s).2 := by
  rw [run_bind, run_bind]
  rcases step.run.run s with ⟨_ | a, t⟩
  · rfl
  · exact h a t

/-- A run from one session to another that gives a result. -/
def Yields (step : Step σ α) (s : Session σ) (a : α) (t : Session σ) : Prop :=
  step.run.run s = (.ok a, t)

theorem exists_yields {step : Step σ α} {a : α} (h : (step.run.run s).1 = .ok a) :
    ∃ t, Yields step s a t :=
  ⟨_, Prod.ext h rfl⟩

theorem yields_pure {a b : α} : Yields (pure a : Step σ α) s b t ↔ a = b ∧ s = t := by
  constructor
  · intro h
    cases h
    exact ⟨rfl, rfl⟩
  · rintro ⟨rfl, rfl⟩
    rfl

theorem yields_bind {step : Step σ α} {next : α → Step σ β} {b : β} :
    Yields (step >>= next) s b u ↔ ∃ a t, Yields step s a t ∧ Yields (next a) t b u := by
  unfold Yields
  rw [run_bind]
  rcases step.run.run s with ⟨fault | a, t⟩
  · constructor
    · intro h
      cases h
    · rintro ⟨_, _, h, -⟩
      cases h
  · constructor
    · intro h
      exact ⟨a, t, rfl, h⟩
    · rintro ⟨_, _, h, hb⟩
      cases h
      exact hb

theorem Yields.bind {step : Step σ α} {next : α → Step σ β} {a : α} {b : β}
    (first : Yields step s a t) (second : Yields (next a) t b u) : Yields (step >>= next) s b u :=
  yields_bind.mpr ⟨a, t, first, second⟩

theorem exists_yields_bind {step : Step σ α} {next : α → Step σ β}
    (first : ∃ a t, Yields step s a t) (second : ∀ a t, ∃ b u, Yields (next a) t b u) :
    ∃ b u, Yields (step >>= next) s b u := by
  obtain ⟨a, t, ha⟩ := first
  obtain ⟨b, u, hb⟩ := second a t
  exact ⟨b, u, ha.bind hb⟩

theorem yields_write {record : Log.Record} :
    Yields (write record) s () t ↔ t = { s with log := s.log ++ [record] } := by
  constructor
  · intro h
    cases h
    rfl
  · rintro rfl
    rfl

theorem yields_state {a : σ} : Yields state s a t ↔ a = s.state ∧ t = s := by
  constructor
  · intro h
    cases h
    exact ⟨rfl, rfl⟩
  · rintro ⟨rfl, rfl⟩
    rfl

theorem yields_setState {a : σ} : Yields (setState a) s () t ↔ t = { s with state := a } := by
  constructor
  · intro h
    cases h
    rfl
  · rintro rfl
    rfl

theorem not_yields_fail {fault : Fault} {a : α} : ¬Yields (fail fault) s a t := by
  intro h
  cases h

theorem not_yields_failWith {cause : Cause} {a : α} : ¬Yields (failWith cause) s a t := by
  intro h
  cases h

theorem yields_ofExcept {x : Except Fault α} {a : α} :
    Yields (ofExcept x) s a t ↔ x = .ok a ∧ s = t := by
  cases x with
  | error fault =>
    constructor
    · intro h
      cases h
    · rintro ⟨h, -⟩
      cases h
  | ok b =>
    rw [Except.ok.injEq]
    exact yields_pure

theorem yields_attempt {step : Step σ α} {result : Except Fault α} :
    Yields (attempt step) s result t ↔ step.run.run s = (result, t) := by
  unfold Yields attempt
  change ((.ok (step.run.run s).1, (step.run.run s).2) : Except Fault (Except Fault α) × Session σ)
    = _ ↔ _
  rcases step.run.run s with ⟨first, second⟩
  constructor
  · intro h
    cases h
    rfl
  · intro h
    cases h
    rfl

/-- Runs of one computation for each item of a list, one after the other. -/
inductive Chain (step : α → Step σ β) : Session σ → List α → List β → Session σ → Prop where
  | nil {s : Session σ} : Chain step s [] [] s
  | cons {s t u : Session σ} {a : α} {as : List α} {b : β} {bs : List β}
    (head : Yields (step a) s b t) (tail : Chain step t as bs u) : Chain step s (a :: as) (b :: bs) u

theorem yields_mapM {step : α → Step σ β} {as : List α} {bs : List β} :
    Yields (as.mapM step) s bs u ↔ Chain step s as bs u := by
  induction as generalizing s bs with
  | nil =>
    rw [List.mapM_nil, yields_pure]
    constructor
    · rintro ⟨rfl, rfl⟩
      exact .nil
    · intro h
      cases h
      exact ⟨rfl, rfl⟩
  | cons a as ih =>
    rw [List.mapM_cons]
    constructor
    · intro h
      obtain ⟨b, t, head, h⟩ := yields_bind.mp h
      obtain ⟨rest, v, tail, h⟩ := yields_bind.mp h
      obtain ⟨rfl, rfl⟩ := yields_pure.mp h
      exact .cons head (ih.mp tail)
    · intro h
      cases h with
      | cons head tail => exact head.bind ((ih.mpr tail).bind (yields_pure.mpr ⟨rfl, rfl⟩))

namespace Chain

variable {step : α → Step σ β} {as : List α} {bs : List β}

theorem map_iff {γ : Type} {f : γ → α} {items : List γ} :
    Chain (fun item => step (f item)) s items bs u ↔ Chain step s (items.map f) bs u := by
  induction items generalizing s bs with
  | nil =>
    constructor
    · intro h
      cases h
      exact .nil
    · intro h
      cases h
      exact .nil
  | cons item items ih =>
    constructor
    · intro h
      cases h with
      | cons head tail => exact .cons head (ih.mp tail)
    · intro h
      cases h with
      | cons head tail => exact .cons head (ih.mpr tail)

theorem concat {a : α} {b : β} {v : Session σ} (chain : Chain step s as bs u)
    (last : Yields (step a) u b v) : Chain step s (as ++ [a]) (bs ++ [b]) v := by
  induction chain with
  | nil => exact .cons last .nil
  | cons head _ ih => exact .cons head (ih last)

theorem exists_of_total (total : ∀ a s, ∃ b t, Yields (step a) s b t) (as : List α)
    (s : Session σ) : ∃ bs u, Chain step s as bs u := by
  induction as generalizing s with
  | nil => exact ⟨[], s, .nil⟩
  | cons a as ih =>
    obtain ⟨b, t, head⟩ := total a s
    obtain ⟨bs, u, tail⟩ := ih t
    exact ⟨b :: bs, u, .cons head tail⟩

end Chain

/-- A computation that leaves the state as it is, however it ends. -/
def KeepsState (step : Step σ α) : Prop :=
  ∀ s, (step.run.run s).2.state = s.state

namespace KeepsState

theorem pure (a : α) : KeepsState (pure a : Step σ α) :=
  fun _ => rfl

theorem fail (fault : Fault) : KeepsState (fail fault : Step σ α) :=
  fun _ => rfl

theorem write (record : Log.Record) : KeepsState (write record : Step σ Unit) :=
  fun _ => rfl

theorem state : KeepsState (state : Step σ σ) :=
  fun _ => rfl

theorem ofExcept (x : Except Fault α) : KeepsState (ofExcept x : Step σ α) :=
  fun s => by rw [run_ofExcept]

theorem bind {step : Step σ α} {next : α → Step σ β} (first : KeepsState step)
    (second : ∀ a, KeepsState (next a)) : KeepsState (step >>= next) := by
  intro s
  have left := first s
  rcases ran : step.run.run s with ⟨fault | a, t⟩
  · rw [ran] at left
    rw [run_bind_of_error ran]
    exact left
  · rw [ran] at left
    rw [run_bind_of_ok ran]
    exact (second a t).trans left

end KeepsState

/-- A computation whose failures are all of one sort. -/
def FailsWith (sort : Fault → Prop) (step : Step σ α) : Prop :=
  ∀ s fault, (step.run.run s).1 = .error fault → sort fault

namespace FailsWith

variable {sort : Fault → Prop}

theorem pure (a : α) : FailsWith sort (pure a : Step σ α) := by
  intro s fault h
  cases h

theorem fail {fault : Fault} (h : sort fault) : FailsWith sort (fail fault : Step σ α) := by
  intro s fault h
  cases h
  assumption

theorem state : FailsWith sort (state : Step σ σ) := by
  intro s fault h
  cases h

theorem setState (a : σ) : FailsWith sort (setState a : Step σ Unit) := by
  intro s fault h
  cases h

theorem ofExcept {x : Except Fault α} (h : ∀ fault, x = .error fault → sort fault) :
    FailsWith sort (ofExcept x : Step σ α) := by
  intro s fault failed
  rw [run_ofExcept] at failed
  exact h fault failed

theorem bind {step : Step σ α} {next : α → Step σ β} (first : FailsWith sort step)
    (second : ∀ a, FailsWith sort (next a)) : FailsWith sort (step >>= next) := by
  intro s fault h
  have early := first s
  rcases ran : step.run.run s with ⟨other | a, t⟩
  · rw [ran] at early
    rw [run_bind_of_error ran] at h
    cases h
    exact early fault rfl
  · rw [run_bind_of_ok ran] at h
    exact second a t fault h

theorem mapM {step : α → Step σ β} (h : ∀ a, FailsWith sort (step a)) (as : List α) :
    FailsWith sort (as.mapM step) := by
  induction as with
  | nil => exact .pure []
  | cons a as ih =>
    rw [List.mapM_cons]
    exact (h a).bind fun b => ih.bind fun bs => .pure (b :: bs)

end FailsWith

/--
A computation that ends in one way wherever it is run: it neither looks at the session nor changes
the state, and it writes the same records.
-/
def IsPlain (step : Step σ α) (result : Except Fault α) : Prop :=
  ∃ records, ∀ s, step.run.run s = (result, ⟨s.state, s.log ++ records⟩)

namespace IsPlain

variable {step : Step σ α} {next : α → Step σ β} {a : α} {fault : Fault}

theorem pure (a : α) : IsPlain (pure a : Step σ α) (.ok a) :=
  ⟨[], fun s => by rw [run_pure, List.append_nil]⟩

theorem fail (fault : Fault) : IsPlain (fail fault : Step σ α) (.error fault) :=
  ⟨[], fun s => by rw [run_fail, List.append_nil]⟩

theorem write (record : Log.Record) : IsPlain (write record : Step σ Unit) (.ok ()) :=
  ⟨[record], fun _ => rfl⟩

theorem ofExcept (x : Except Fault α) : IsPlain (ofExcept x : Step σ α) x :=
  ⟨[], fun s => by rw [run_ofExcept, List.append_nil]⟩

theorem attempt {x : Except Fault α} (h : IsPlain step x) : IsPlain (attempt step) (.ok x) := by
  obtain ⟨records, h⟩ := h
  refine ⟨records, fun s => ?_⟩
  rw [run_attempt, h]

theorem bind {x : Except Fault α} {f : α → Except Fault β} (first : IsPlain step x)
    (second : ∀ a, x = .ok a → IsPlain (next a) (f a)) : IsPlain (step >>= next) (x >>= f) := by
  obtain ⟨records, first⟩ := first
  cases x with
  | error fault => exact ⟨records, fun s => run_bind_of_error (first s)⟩
  | ok a =>
    obtain ⟨others, second⟩ := second a rfl
    refine ⟨records ++ others, fun s => ?_⟩
    rw [run_bind_of_ok (first s), second, List.append_assoc]
    rfl

theorem bind_ok {x : Except Fault β} (first : IsPlain step (.ok a)) (second : IsPlain (next a) x) :
    IsPlain (step >>= next) x :=
  first.bind (f := fun _ => x) fun b same => by cases same; exact second

theorem mapM {step : α → Step σ β} {f : α → Except Fault β} (h : ∀ a, IsPlain (step a) (f a))
    (as : List α) : IsPlain (as.mapM step) (as.mapM f) := by
  induction as with
  | nil => exact .pure []
  | cons a as ih =>
    rw [List.mapM_cons, List.mapM_cons]
    exact (h a).bind fun b _ => ih.bind fun bs _ => .pure (b :: bs)

theorem of_yields {x : Except Fault α} (h : IsPlain step x) (ending : Yields step s a t) :
    x = .ok a := by
  obtain ⟨records, h⟩ := h
  rw [Yields, h] at ending
  cases ending
  rfl

theorem keepsState {x : Except Fault α} (h : IsPlain step x) : KeepsState step := by
  obtain ⟨records, h⟩ := h
  intro s
  rw [h]

theorem fst_run {x : Except Fault α} (h : IsPlain step x) (s : Session σ) :
    (step.run.run s).1 = x := by
  obtain ⟨records, h⟩ := h
  rw [h]

theorem fst_run_bind {f : α → Except Fault β} (h : ∀ a, IsPlain (next a) (f a)) (s : Session σ) :
    ((step >>= next).run.run s).1 = (step.run.run s).1 >>= f := by
  rw [run_bind]
  rcases step.run.run s with ⟨fault | a, t⟩
  · rfl
  · exact (h a).fst_run t

theorem fst_run_attempt_bind {next : Except Fault α → Step σ β}
    {f : Except Fault α → Except Fault β} (h : ∀ result, IsPlain (next result) (f result))
    (step : Step σ α) (s : Session σ) :
    ((step.attempt >>= next).run.run s).1 = f (step.run.run s).1 := by
  rw [fst_run_bind h, run_attempt]
  rfl

end IsPlain

/-- A computation that does not look at the log: from one state on it ends in one way. -/
def IsBlind (step : Step σ α) : Prop :=
  ∀ s u : Session σ, s.state = u.state →
    (step.run.run s).1 = (step.run.run u).1 ∧ (step.run.run s).2.state = (step.run.run u).2.state

theorem IsPlain.isBlind {step : Step σ α} {x : Except Fault α} (h : IsPlain step x) :
    IsBlind step := by
  intro s u same
  rw [h.fst_run, h.fst_run, h.keepsState, h.keepsState]
  exact ⟨rfl, same⟩

namespace IsBlind

variable {step : Step σ α} {next : α → Step σ β}

theorem pure (a : α) : IsBlind (pure a : Step σ α) := (IsPlain.pure a).isBlind

theorem fail (fault : Fault) : IsBlind (fail fault : Step σ α) := (IsPlain.fail fault).isBlind

theorem write (record : Log.Record) : IsBlind (write record : Step σ Unit) :=
  (IsPlain.write record).isBlind

theorem state : IsBlind (state : Step σ σ) :=
  fun _ _ same => ⟨congrArg Except.ok same, same⟩

theorem setState (a : σ) : IsBlind (setState a : Step σ Unit) :=
  fun _ _ _ => ⟨rfl, rfl⟩

theorem attempt (h : IsBlind step) : IsBlind (attempt step) := by
  intro s u same
  obtain ⟨result, left⟩ := h s u same
  rw [run_attempt, run_attempt]
  exact ⟨congrArg Except.ok result, left⟩

theorem bind (first : IsBlind step) (second : ∀ a, IsBlind (next a)) : IsBlind (step >>= next) := by
  intro s u same
  obtain ⟨result, left⟩ := first s u same
  rw [run_bind, run_bind]
  rcases ran : step.run.run s with ⟨x, t⟩
  rcases ran' : step.run.run u with ⟨y, v⟩
  rw [ran, ran'] at result left
  cases result
  cases x with
  | error fault => exact ⟨rfl, left⟩
  | ok a => exact second a t v left

theorem within {part : τ → σ} {put : σ → τ → τ} (h : IsBlind step) :
    IsBlind (within part put step) := by
  intro s u same
  obtain ⟨result, left⟩ := h ⟨part s.state, s.log⟩ ⟨part u.state, u.log⟩ (congrArg part same)
  rw [run_within, run_within]
  refine ⟨result, ?_⟩
  simp only
  rw [left, same]

/-- From one state on, two runs that end well give the same and leave the same state. -/
theorem eq_of_yields (h : IsBlind step) {s t u v : Session σ} {a b : α} (same : s.state = u.state)
    (first : Yields step s a t) (second : Yields step u b v) : a = b ∧ t.state = v.state := by
  obtain ⟨result, left⟩ := h s u same
  rw [Yields] at first second
  rw [first, second] at result left
  exact ⟨Except.ok.inj result, left⟩

end IsBlind

end Step

end Typescribe
