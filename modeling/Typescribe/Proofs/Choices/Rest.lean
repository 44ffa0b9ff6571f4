import Typescribe.Choices.Rest
import Typescribe.Proofs.Choices.Cache
import Typescribe.Proofs.Rest.Client
import Typescribe.Proofs.Snapshot.ChoiceData
import Typescribe.Proofs.Snapshot.Document

/-!
This module contains what becomes of the data that a server gives over its REST interface: the
definition of one field, and the definitions of all fields that have choices.
-/

namespace Typescribe.ChoiceSource

open Json (IsData IsReadNumber)
open Snapshot (memberOf pairsOf)

variable {σ : Type} {collection field : String} {entry : Value} {d : FieldDefinition}

theorem toList_fieldPath (collection field : String) :
    (fieldPath collection field).toList
      = "/fields".toList ++ Text.pathOf [collection.toList, field.toList] := by
  have slash : "/fields/".toList = "/fields".toList ++ ['/'] := by decide
  unfold fieldPath
  rw [String.toList_ofList, slash]
  simp only [Text.pathOf, List.flatMap_cons, List.flatMap_nil, List.append_assoc, List.cons_append,
    List.nil_append, List.append_nil]

/-! ### Entries -/

def described (collection field info : Value) : Except Cause FieldDefinition := do
  let interface ← info.member? "interface"
  let options ← info.member? "options"
  Snapshot.definitionOf collection field (interface.getD .null) (options.getD .null)

theorem isPlain_definitionOf (collection field info : Value) :
    Step.IsPlain (definitionOf collection field info : Step σ _)
      ((described collection field info).mapError .foreign) := by
  unfold definitionOf described
  simp only [mapError_bind]
  apply (Snapshot.isPlain_orFail (info.member? "interface")).bind
  intro interface _
  apply (Snapshot.isPlain_orFail (info.member? "options")).bind
  intro options _
  exact Snapshot.isPlain_buildDefinition _ _ _ _

/-- What an entry in the list of fields says; one without names says nothing. -/
def entryDescribed (entry : Value) : Except Cause (Option FieldDefinition) :=
  match memberOf "collection" entry, memberOf "field" entry with
  | some collection, some field => (described collection field (Snapshot.infoOf entry)).map some
  | _, _ => .ok none

theorem isPlain_entryDefinition (entry : Value) :
    Step.IsPlain (entryDefinition entry : Step σ _) ((entryDescribed entry).mapError .foreign) := by
  unfold entryDefinition entryDescribed memberOf
  simp only
  rcases Value.lookup "collection" (pairsOf entry) with _ | collection
  · exact (Step.IsPlain.write _).bind_ok (.pure none)
  · rcases Value.lookup "field" (pairsOf entry) with _ | field
    · exact (Step.IsPlain.write _).bind_ok (.pure none)
    · simp only [mapError_map]
      exact (isPlain_definitionOf collection field _).bind fun d _ => .pure (some d)

/-- The definitions in a list of entries that have choices. -/
def definitionsOf (entries : List Value) : Except Cause (List FieldDefinition) := do
  let definitions ← entries.mapM entryDescribed
  return (definitions.filterMap id).filter (!·.choices.isEmpty)

theorem mem_definitionsOf {entries : List Value} {definitions : List FieldDefinition}
    (h : definitionsOf entries = .ok definitions) :
    d ∈ definitions ↔ d.choices ≠ [] ∧ ∃ entry ∈ entries, entryDescribed entry = .ok (some d) := by
  obtain ⟨all, read, h⟩ := bind_eq_ok.mp h
  cases h
  have entry : some d ∈ all ↔ ∃ entry ∈ entries, entryDescribed entry = .ok (some d) := by
    have pairs := forall₂_of_mapM_eq_ok read
    constructor
    · intro mem
      exact exists_of_mem_right pairs mem
    · rintro ⟨entry, mem, described⟩
      obtain ⟨found, hfound, same⟩ := exists_of_mem_left pairs mem
      cases described.symm.trans same
      exact hfound
  simp [List.mem_filter, List.mem_filterMap, entry, and_comm]

/-- An entry whose names are the given texts. -/
def IsNamed (collection field : String) (entry : Value) : Prop :=
  memberOf "collection" entry = some (.text collection)
    ∧ memberOf "field" entry = some (.text field)

theorem IsNamed.entryDescribed_eq (h : IsNamed collection field entry) :
    entryDescribed entry
      = (described (.text collection) (.text field) (Snapshot.infoOf entry)).map some := by
  rw [entryDescribed, h.1, h.2]

theorem isNamed_of_entryDescribed (data : IsData IsReadNumber entry)
    (h : entryDescribed entry = .ok (some d)) : IsNamed d.collection d.field entry := by
  have text {name s : String} {value : Value} (found : memberOf name entry = some value)
      (read : Checked.asText value = .valid s) : value = .text s := by
    have given := Snapshot.isData_of_lookup (Snapshot.isData_pairsOf data) found
    cases given with
    | text =>
      cases read
      rfl
    | number number =>
      cases value with
      | int | float => cases read
      | _ => cases number
    | _ => cases read
  unfold entryDescribed at h
  split at h
  · next collection field hasCollection hasField =>
    obtain ⟨_, read, same⟩ := map_eq_ok.mp h
    cases same
    obtain ⟨_, -, read⟩ := bind_eq_ok.mp read
    obtain ⟨_, -, read⟩ := bind_eq_ok.mp read
    obtain ⟨readCollection, readField⟩ := Snapshot.of_definitionOf read
    exact ⟨text hasCollection readCollection ▸ hasCollection,
      text hasField readField ▸ hasField⟩
  · cases h

/-! ### One field -/

/-- The answer for a field, by what was got from its resource. -/
def answerFor (collection field : String) :
    Except Fault Value → Except Fault (Option FieldDefinition)
  | .ok (.mapping pairs) =>
    ((described (.text collection) (.text field) (infoOf pairs)).map some).mapError .foreign
  | .ok _ => .ok none
  | .error fault =>
    if isUnknownField fault then .ok none
    else
      match Rest.Client.isFailedExchange fault with
      | some cause => .error (.lookup (.request (fieldPath collection field) cause))
      | none => .error fault

theorem fst_run_restLookup (client : Rest.Client σ) (s : Session σ) :
    ((restLookup client collection field).run.run s).1
      = answerFor collection field ((client.get (fieldPath collection field)).run.run s).1 := by
  unfold restLookup
  apply Step.IsPlain.fst_run_attempt_bind
  intro got
  cases got with
  | ok value =>
    cases value with
    | mapping pairs =>
      simp only [answerFor, mapError_map]
      exact (isPlain_definitionOf _ _ _).bind fun d _ => .pure (some d)
    | _ => exact .pure none
  | error fault =>
    simp only [answerFor]
    split
    · exact .pure none
    · cases Rest.Client.isFailedExchange fault with
      | none => exact .fail fault
      | some cause => exact .fail _

/-! ### All fields -/

theorem fst_run_reportExchange {α : Type} (report : Cause → Fault) (step : Step σ α)
    (s : Session σ) :
    ((Rest.Client.reportExchange report step).run.run s).1
      = (step.run.run s).1.mapError fun fault =>
          ((Rest.Client.isFailedExchange fault).map report).getD fault := by
  unfold Rest.Client.reportExchange
  apply Step.IsPlain.fst_run_attempt_bind (f := fun result => result.mapError fun fault =>
    ((Rest.Client.isFailedExchange fault).map report).getD fault)
  intro result
  cases result with
  | ok a => exact .pure a
  | error fault =>
    simp only [Except.mapError]
    cases Rest.Client.isFailedExchange fault with
    | none => exact .fail fault
    | some cause => exact .fail _

/-- The definitions with choices in the data of all fields; no data count as an empty list. -/
def definitionsIn (data : Value) : Except Cause (List FieldDefinition) := do
  definitionsOf (← (Value.orElse (some data) (.list [])).elements)

theorem definitionsIn_list (entries : List Value) :
    definitionsIn (.list entries) = definitionsOf entries := by
  cases entries with
  | nil => rfl
  | cons entry entries => rfl

theorem fst_run_restAll (client : Rest.Client σ) (s : Session σ) :
    ((restAll client).run.run s).1
      = (((client.get "/fields").run.run s).1.mapError fun fault =>
          ((Rest.Client.isFailedExchange fault).map fun cause =>
            .lookup (.request "/fields" cause)).getD fault)
        >>= fun data => (definitionsIn data).mapError .foreign := by
  rw [← fst_run_reportExchange]
  unfold restAll
  apply Step.IsPlain.fst_run_bind
  intro data
  unfold definitionsIn definitionsOf
  simp only [mapError_bind, mapError_mapM]
  apply (Snapshot.isPlain_orFail _).bind
  intro entries _
  exact (Step.IsPlain.mapM isPlain_entryDefinition entries).bind fun definitions _ => .pure _

end Typescribe.ChoiceSource
