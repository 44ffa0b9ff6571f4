import Typescribe.Proofs.Json.Data
import Typescribe.Proofs.Snapshot.Options

/-!
This module contains the values of the choices in options that were read from a document or a text.
Each of them is data, over the numbers that can be read.
-/

namespace Typescribe.Snapshot

open Json

theorem opened_of_isData {value : Value} (h : IsData IsReadNumber value) :
    value.opened = value := by
  cases h with
  | @number value number =>
    cases value with
    | int | float => rfl
    | _ => cases number
  | _ => rfl

theorem isData_of_mem {items : List Value} (h : IsData IsReadNumber (.list items)) :
    ∀ item ∈ items, IsData IsReadNumber item := by
  cases h with
  | number number => cases number
  | list data => exact data

theorem isData_of_readJson {text : String} {value : Value} (h : readJson text = .ok value) :
    IsData IsReadNumber value := by
  unfold readJson at h
  split at h
  · next read =>
    cases h
    exact isData_of_read read
  · cases h
  · cases h

theorem exists_mem_of_lookup {name : String} {pairs : List (Value × Value)} {value : Value}
    (h : Value.lookup name pairs = some value) : ∃ key, (key, value) ∈ pairs := by
  fun_induction Value.lookup name pairs with
  | case1 => cases h
  | case2 =>
    cases h
    exact ⟨_, List.mem_cons_self⟩
  | case3 _ _ _ _ ih | case4 _ _ _ ih =>
    obtain ⟨key, mem⟩ := ih h
    exact ⟨key, List.mem_cons_of_mem _ mem⟩

theorem isData_of_lookup {name : String} {pairs : List (Value × Value)} {value : Value}
    (h : IsData IsReadNumber (.mapping pairs)) (found : Value.lookup name pairs = some value) :
    IsData IsReadNumber value := by
  cases h with
  | number number => cases number
  | mapping _ data =>
    obtain ⟨key, mem⟩ := exists_mem_of_lookup found
    obtain ⟨member, hm, same⟩ := List.mem_map.mp mem
    cases same
    exact data member hm

theorem isData_pairsOf {value : Value} (h : IsData IsReadNumber value) :
    IsData IsReadNumber (.mapping (pairsOf value)) := by
  unfold pairsOf
  rw [opened_of_isData h]
  split
  · exact h
  · exact .noMembers

theorem isData_of_optionsOf {options : Value} {pairs : List (Value × Value)}
    (h : IsData IsReadNumber options) (read : optionsOf options = .ok pairs) :
    IsData IsReadNumber (.mapping pairs) := by
  unfold optionsOf at read
  split at read
  · cases read
    exact .noMembers
  · split at read
    · split at read
      · next found =>
        cases read
        exact isData_pairsOf (isData_of_readJson found)
      · cases read
        exact .noMembers
      · cases read
    · cases read
      exact isData_pairsOf h

theorem isData_rawChoices {options : List (Value × Value)}
    (h : IsData IsReadNumber (.mapping options)) :
    ∀ item ∈ rawChoices options, IsData IsReadNumber item := by
  have given : IsData IsReadNumber (Value.orElse (Value.lookup "choices" options) (.list [])) := by
    have empty : IsData IsReadNumber (.list []) := .list (by simp)
    unfold Value.orElse
    split
    · next found =>
      split
      · exact isData_of_lookup h found
      · exact empty
    · exact empty
  unfold rawChoices
  rw [opened_of_isData given]
  split
  · next same => exact isData_of_mem (same ▸ given)
  · simp

theorem isData_choice? {value : Value} {choice : FieldChoice} (h : IsData IsReadNumber value)
    (read : choice? value = .ok (some choice)) : IsData IsReadNumber choice.value := by
  unfold choice? at read
  rw [opened_of_isData h] at read
  split at read
  · split at read
    · cases read
    · next found =>
      obtain ⟨checked, check, same⟩ := map_eq_ok.mp read
      cases same
      simp only [Checked.result_eq_ok, FieldChoice.check, Checked.asModel, Checked.app_eq_valid,
        Checked.map_eq_valid, Checked.required_eq_valid] at check
      obtain ⟨_, _, ⟨_, ⟨_, first, valid⟩, rfl⟩, -, rfl⟩ := check
      cases first
      cases valid
      exact isData_of_lookup h found
  · obtain ⟨text, -, same⟩ := map_eq_ok.mp read
    cases same
    exact h

theorem isData_choices {items : List Value} {found : List FieldChoice}
    (h : ∀ item ∈ items, IsData IsReadNumber item) (read : choices items = .ok found) :
    ∀ choice ∈ found, IsData IsReadNumber choice.value := by
  induction items generalizing found with
  | nil =>
    cases read
    simp
  | cons item items ih =>
    obtain ⟨first, head, read⟩ := bind_eq_ok.mp read
    obtain ⟨others, tail, read⟩ := bind_eq_ok.mp read
    cases read
    rw [List.forall_mem_append]
    refine ⟨?_, ih (fun item hi => h item (List.mem_cons_of_mem _ hi)) tail⟩
    intro choice hc
    rw [Option.mem_toList.mp hc] at head
    exact isData_choice? (h item List.mem_cons_self) head

/-- Options are data if they come from a document that is data, and if they are any text. -/
theorem isData_of_definitionOf {collection field interface options : Value} {d : FieldDefinition}
    (h : IsData IsReadNumber options)
    (defined : definitionOf collection field interface options = .ok d) :
    ∀ choice ∈ d.choices, IsData IsReadNumber choice.value := by
  obtain ⟨pairs, read, defined⟩ := bind_eq_ok.mp defined
  obtain ⟨found, choices, defined⟩ := bind_eq_ok.mp defined
  rw [(of_checkDefinition defined).2.2]
  exact isData_choices (isData_rawChoices (isData_of_optionsOf h read)) choices

end Typescribe.Snapshot
