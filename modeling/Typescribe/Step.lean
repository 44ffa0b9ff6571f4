import Typescribe.Fault
import Typescribe.Log.Record

/-!
This module contains computations that can fail, that write to the log, and that work on a state.
State and log outlive a failure.
-/

namespace Typescribe

/-- A state and the records written so far, the oldest first. -/
structure Session (σ : Type) where
  state : σ
  log : List Log.Record := []

abbrev Step (σ α : Type) := ExceptT Fault (StateM (Session σ)) α

namespace Step

variable {σ τ α : Type}

def runOn (step : Step σ α) (state : σ) : Except Fault α × Session σ :=
  step.run.run ⟨state, []⟩

def write (record : Log.Record) : Step σ Unit :=
  modify fun s => { s with log := s.log ++ [record] }

def state : Step σ σ := do
  return (← get).state

def setState (state : σ) : Step σ Unit :=
  modify fun s => { s with state }

def fail (fault : Fault) : Step σ α :=
  throw fault

def failWith (cause : Cause) : Step σ α :=
  throw (.foreign cause)

/-- The result of a computation as a value, so that a failure does not go on. -/
def attempt (step : Step σ α) : Step σ (Except Fault α) :=
  fun s =>
    let (result, s) := step s
    (.ok result, s)

def within (part : σ → τ) (put : τ → σ → σ) (step : Step τ α) : Step σ α :=
  fun s =>
    let (result, inner) := step ⟨part s.state, s.log⟩
    (result, ⟨put inner.state s.state, inner.log⟩)

def ofExcept : Except Fault α → Step σ α
  | .ok a => pure a
  | .error fault => throw fault

variable {β : Type} (step : Step σ α) (s : σ)

@[simp]
theorem runOn_pure (a : α) : runOn (pure a : Step σ α) s = (.ok a, ⟨s, []⟩) := rfl

@[simp]
theorem runOn_fail (fault : Fault) : runOn (fail fault : Step σ α) s = (.error fault, ⟨s, []⟩) :=
  rfl

@[simp]
theorem runOn_write (record : Log.Record) : runOn (write record) s = (.ok (), ⟨s, [record]⟩) := rfl

@[simp]
theorem runOn_state : runOn (state : Step σ σ) s = (.ok s, ⟨s, []⟩) := rfl

@[simp]
theorem runOn_setState (t : σ) : runOn (setState t) s = (.ok (), ⟨t, []⟩) := rfl

@[simp]
theorem runOn_attempt : runOn (attempt step) s = (.ok (runOn step s).1, (runOn step s).2) := rfl

end Step

end Typescribe
