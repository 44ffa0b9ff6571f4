import Typescribe.Proofs.Json.Writer
import Typescribe.Proofs.Step
import Typescribe.Snapshot.Options

/-!
This module contains the options of fields that are given as JSON text: they mean what the mapping
means that the text was written from.
-/

namespace Typescribe.Snapshot

variable {σ : Type}

theorem run_parseOptions_mapping (pairs : List (Value × Value)) (s : Session σ) :
    (parseOptions (.mapping pairs)).run.run s = (.ok pairs, s) := by
  cases pairs <;> rfl

theorem run_parseOptions_text {text : String} {pairs : List (Value × Value)}
    (h : Json.ReadsAs text.toList (.mapping pairs)) (s : Session σ) :
    (parseOptions (.text text)).run.run s = (.ok pairs, s) := by
  have notEmpty : text ≠ "" := by
    rintro rfl
    obtain ⟨_, _, empty, -⟩ := h.opening
    cases empty
  have truthy : (Value.text text).isTruthy = true := decide_eq_true notEmpty
  have read : readJson text = .ok (.mapping pairs) := by
    rw [readJson, Json.read_of_readsAs h]
  simp only [parseOptions, truthy, Bool.not_true, Bool.false_eq_true, if_false, read]
  rfl

/-- What is done with options depends only on what they are parsed as. -/
theorem run_buildDefinition_congr {options others : Value} {s : Session σ}
    (same : (parseOptions options).run.run s = (parseOptions others).run.run s)
    (collection field interface : Value) :
    (buildDefinition collection field interface options).run.run s
      = (buildDefinition collection field interface others).run.run s := by
  rw [buildDefinition, buildDefinition, Step.run_bind, Step.run_bind, same]

/--
The text of a mapping of options is parsed as that mapping, without a record in the log; and a field
with the text is defined, fails and is logged as the field with the mapping.
-/
theorem run_buildDefinition_written {pairs : List (Value × Value)}
    (exact : Json.IsExact (.mapping pairs)) :
    ∃ text, Json.write (.mapping pairs) = .ok text
      ∧ (∀ s : Session σ, (parseOptions (.text text)).run.run s = (.ok pairs, s))
      ∧ ∀ (collection field interface : Value) (s : Session σ),
        (buildDefinition collection field interface (.text text)).run.run s
          = (buildDefinition collection field interface (.mapping pairs)).run.run s := by
  obtain ⟨text, written, reads⟩ := Json.isWritten_of_isExact exact
  refine ⟨text, written, run_parseOptions_text reads, ?_⟩
  intro collection field interface s
  apply run_buildDefinition_congr
  rw [run_parseOptions_text reads, run_parseOptions_mapping]

theorem run_buildDefinition_written_choices :
    Json.IsExact (.mapping [(.text "choices", .list [.int (-7), .text "\n😀"])])
      ∧ ∀ (collection field interface : Value) (s : Session Unit),
        (buildDefinition collection field interface
            (.text "\x7b\"choices\": [-7, \"\\n\\ud83d\\ude00\"]\x7d")).run.run s
          = (buildDefinition collection field interface
            (.mapping [(.text "choices", .list [.int (-7), .text "\n😀"])])).run.run s := by
  have items : ∀ item ∈ [.int (-7), .text "\n😀"], Json.IsExact item := by
    simpa using ⟨.int (by decide +kernel), .text _⟩
  have exact : Json.IsExact (.mapping [(.text "choices", .list [.int (-7), .text "\n😀"])]) := by
    have names : ([("choices", Value.list [.int (-7), .text "\n😀"])].map (·.1)).Nodup := by decide
    exact .mapping names (by simpa using .list items)
  obtain ⟨text, written, -, same⟩ := run_buildDefinition_written (σ := Unit) exact
  have known : Json.write (.mapping [(.text "choices", .list [.int (-7), .text "\n😀"])])
      = .ok "\x7b\"choices\": [-7, \"\\n\\ud83d\\ude00\"]\x7d" := by
    decide +kernel
  rw [known] at written
  cases written
  exact ⟨exact, same⟩

end Typescribe.Snapshot
