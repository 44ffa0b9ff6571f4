import Typescribe.Proofs.Choices.Rest

/-!
This module contains the paths under which single fields are asked for. A path identifies its field,
whatever characters the names of the field hold.
-/

namespace Typescribe.ChoiceSource

open Rest.Address (Parts)

variable {σ : Type} {collection field collection' field' : String}

theorem splitAt_fieldPath (collection field : String) :
    Text.splitAt '/' (fieldPath collection field).toList
      = [[], "fields".toList, Text.percentEncode collection.toList,
          Text.percentEncode field.toList] := by
  rw [toList_fieldPath, Text.splitAt_append_pathOf]
  rfl

theorem isAlphanum_or_mem_of_mem_fieldPath {c : Char}
    (h : c ∈ (fieldPath collection field).toList) :
    c.isAlphanum ∨ c ∈ ['_', '.', '-', '~', '%', '/'] := by
  rw [toList_fieldPath, List.mem_append] at h
  rcases h with word | encoded
  · have plain : ∀ c ∈ "/fields".toList, c.isAlphanum ∨ c ∈ ['_', '.', '-', '~', '%', '/'] :=
      Text.forall_mem_of_all rfl
    exact plain c word
  · rcases Text.isUnreserved_or_of_mem_pathOf encoded with free | rfl | rfl
    · simp only [Text.isUnreserved, Bool.or_eq_true, decide_eq_true_eq] at free
      rcases free with (((alphanum | rfl) | rfl) | rfl) | rfl
      · exact .inl alphanum
      all_goals decide
    · decide
    · decide

theorem count_slash_fieldPath (collection field : String) :
    (fieldPath collection field).toList.count '/' = 3 := by
  rw [toList_fieldPath, List.count_append, Text.count_slash_pathOf]
  rfl

theorem fieldPath_eq_iff :
    fieldPath collection field = fieldPath collection' field'
      ↔ collection = collection' ∧ field = field' := by
  constructor
  · intro same
    have paths := congrArg String.toList same
    rw [toList_fieldPath, toList_fieldPath] at paths
    have segments := Text.pathOf_inj (List.append_cancel_left paths)
    simp only [List.cons.injEq, and_true, String.toList_inj] at segments
    exact segments
  · rintro ⟨rfl, rfl⟩
    rfl

/--
The path that a lookup asks for consists of exactly four segments, whatever the names of the field:
an empty one, a fixed one, and those that are decoded to the names. All of it is a path, without a
query or a fragment, and no other field is asked for under it.
-/
theorem restLookup_path (collection field : String) :
    (∀ (client : Rest.Client σ) (s : Session σ), ((restLookup client collection field).run.run s).1
        = answerFor collection field ((client.get (fieldPath collection field)).run.run s).1)
      ∧ (∃ first second, Text.splitAt '/' (fieldPath collection field).toList
          = [[], "fields".toList, first, second]
        ∧ Text.percentDecode first = some collection.toList
        ∧ Text.percentDecode second = some field.toList)
      ∧ (∀ c ∈ (fieldPath collection field).toList,
          c.isAlphanum ∨ c ∈ ['_', '.', '-', '~', '%', '/'])
      ∧ (fieldPath collection field).toList.count '/' = 3
      ∧ Parts.ofText (fieldPath collection field).toList
        = { path := (fieldPath collection field).toList }
      ∧ ∀ collection' field', fieldPath collection field = fieldPath collection' field'
        ↔ collection = collection' ∧ field = field' := by
  refine ⟨fun client s => fst_run_restLookup client s,
    ⟨_, _, splitAt_fieldPath collection field, Text.percentDecode_percentEncode _,
      Text.percentDecode_percentEncode _⟩,
    fun c hc => isAlphanum_or_mem_of_mem_fieldPath hc, count_slash_fieldPath collection field, ?_,
    fun _ _ => fieldPath_eq_iff⟩
  rw [toList_fieldPath]
  exact Rest.Address.ofText_fields _

/-- A slash in a name does not move a part of the name into the other segment. -/
theorem restLookup_path_slash : fieldPath "a/b" "c" ≠ fieldPath "a" "b/c" := by
  intro same
  obtain ⟨-, -, -, -, -, only⟩ := @restLookup_path Unit "a/b" "c"
  have names := (only "a" "b/c").mp same
  revert names
  decide

example : fieldPath "a/b" "?é" = "/fields/a%2Fb/%3F%C3%A9" := by decide

end Typescribe.ChoiceSource
