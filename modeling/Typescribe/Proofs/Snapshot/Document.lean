import Typescribe.Proofs.Snapshot.Options
import Typescribe.Snapshot.Document

/-!
This module contains the contents of documents as a function of them, without the records that are
written on the way, and what the members of a raw entry have to do with what is read from it.
-/

namespace Typescribe.Snapshot

variable {σ : Type}

/-- The member of a value under a name, or none. -/
def memberOf (name : String) (value : Value) : Option Value :=
  Value.lookup name (pairsOf value)

/-- What a raw entry says beside its names. -/
def infoOf (raw : Value) : Value :=
  Value.orEmpty (memberOf "meta" raw)

def columnOf (raw : Value) : Value :=
  Value.orEmpty (memberOf "schema" raw)

theorem member?_eq_ok {name : String} {value : Value} {result : Option Value}
    (h : value.member? name = .ok result) : result = memberOf name value := by
  unfold Value.member? at h
  unfold memberOf pairsOf
  cases opened : value.opened with
  | mapping pairs =>
    rw [opened] at h
    cases h
    rfl
  | _ =>
    rw [opened] at h
    cases h

theorem item_eq_ok {name : String} {value item : Value} (h : value.item name = .ok item) :
    memberOf name value = some item := by
  unfold Value.item at h
  unfold memberOf pairsOf
  cases opened : value.opened with
  | mapping pairs =>
    rw [opened] at h
    simp only at h ⊢
    cases found : Value.lookup name pairs with
    | none =>
      rw [found] at h
      cases h
    | some other =>
      rw [found] at h
      cases h
      rfl
  | _ =>
    rw [opened] at h
    cases h

/-- The field that a raw one describes, with the definition of its choices. -/
def fieldEntry (raw : Value) : Except Cause (Field × FieldDefinition) := do
  let field ← buildField raw
  let info := Value.orEmpty (← raw.member? "meta")
  let interface ← info.member? "interface"
  let options ← info.member? "options"
  let definition ← definitionOf (.text field.collection) (.text field.field)
    (interface.getD .null) (options.getD .null)
  return (field, definition)

def collectionEntry (table : FieldTable) (raw : Value) : Except Cause (Option CollectionEntry) := do
  let name ← raw.item "collection"
  if isFolder raw then
    return none
  else
    let info := Value.orEmpty (← raw.member? "meta")
    let singleton ← info.member? "singleton"
    if !name.isKey then
      .error .wrongKind
    else
      let id ← ((Checked.asText name).under "collection").result "Collection"
      let isEncoded := isEncodedName name
      let fields := if isEncoded then [] else table.fieldsOf id
      return some ⟨⟨id, (singleton.getD (.bool false)).isTruthy, fields⟩, isEncoded⟩

/-- The raw entries of a section of a document. -/
def rawEntries (name : String) (document : Value) : Except Cause (List Value) := do
  let list ← document.member? name
  (Value.orElse list (.list [])).elements

/-- The contents that are put together from the entries of the three sections. -/
def assemble (fields : List (Field × FieldDefinition)) (entries : List (Option CollectionEntry))
    (relations : List Relation) : Contents :=
  let entries := entries.filterMap id
  let offered := (fields.map (·.2)).filter (!·.choices.isEmpty)
  let known := offered.filter fun d => entries.any (·.isNamed d.collection)
  ⟨⟨collectionTable entries, relations⟩, known⟩

def contentsOf (document : Value) : Except Cause Contents := do
  let fields ← (← rawEntries "fields" document).mapM fieldEntry
  let table := FieldTable.ofFields (fields.map (·.1))
  let entries ← (← rawEntries "collections" document).mapM (collectionEntry table)
  let relations ← (← rawEntries "relations" document).mapM buildRelation
  return assemble fields entries relations

theorem isPlain_readField (raw : Value) :
    Step.IsPlain (readField raw : Step σ _) ((fieldEntry raw).mapError .foreign) := by
  unfold readField fieldEntry
  simp only [mapError_bind]
  apply (isPlain_orFail (buildField raw)).bind
  intro field _
  apply (isPlain_orFail (raw.member? "meta")).bind
  intro info _
  apply (isPlain_orFail _).bind
  intro interface _
  apply (isPlain_orFail _).bind
  intro options _
  apply (isPlain_buildDefinition _ _ _ _).bind
  intro definition _
  exact .pure _

theorem isPlain_readCollection (table : FieldTable) (raw : Value) :
    Step.IsPlain (readCollection table raw : Step σ _)
      ((collectionEntry table raw).mapError .foreign) := by
  unfold readCollection collectionEntry
  rw [mapError_bind]
  apply (isPlain_orFail (raw.item "collection")).bind
  intro name _
  split
  · exact (Step.IsPlain.write _).bind_ok (.pure none)
  · simp only [mapError_bind]
    apply (isPlain_orFail (raw.member? "meta")).bind
    intro info _
    apply (isPlain_orFail _).bind
    intro singleton _
    split
    · exact .fail _
    · rw [mapError_bind]
      apply (isPlain_orFail _).bind
      intro id _
      exact .pure _

theorem isPlain_section? (name : String) (document : Value) :
    Step.IsPlain (section? name document : Step σ _)
      ((rawEntries name document).mapError .foreign) := by
  unfold section? rawEntries
  rw [mapError_bind]
  apply (isPlain_orFail (document.member? name)).bind
  intro list _
  exact isPlain_orFail _

theorem isPlain_readContents (document : Value) :
    Step.IsPlain (readContents document : Step σ _) ((contentsOf document).mapError .foreign) := by
  unfold readContents contentsOf
  simp only [mapError_bind, mapError_mapM]
  apply (isPlain_section? "fields" document).bind
  intro rawFields _
  apply (Step.IsPlain.mapM isPlain_readField rawFields).bind
  intro fields _
  apply (isPlain_section? "collections" document).bind
  intro rawCollections _
  apply (Step.IsPlain.mapM (isPlain_readCollection _) rawCollections).bind
  intro entries _
  apply (isPlain_section? "relations" document).bind
  intro rawRelations _
  apply (Step.IsPlain.mapM (fun raw => isPlain_orFail (buildRelation raw)) rawRelations).bind
  intro relations _
  exact .pure _

theorem isPlain_parse {document : Value} {pairs : List (Value × Value)}
    (opened : document.opened = .mapping pairs) :
    Step.IsPlain (parse document : Step σ _)
      ((contentsOf document).mapError (malformed ∘ .foreign)) := by
  unfold parse
  rw [opened]
  simp only
  rcases read : contentsOf document with cause | contents
  · have plain := (isPlain_readContents (σ := σ) document).attempt
    rw [read] at plain
    exact plain.bind_ok (.fail _)
  · have plain := (isPlain_readContents (σ := σ) document).attempt
    rw [read] at plain
    exact plain.bind_ok (.pure contents)

theorem run_parse_of_not_mapping {document : Value} {s : Session σ}
    (opened : ∀ pairs, document.opened ≠ .mapping pairs) :
    (parse document).run.run s = (.error (.source .noMapping), s) := by
  unfold parse
  split
  · next pairs h => exact absurd h (opened pairs)
  · rfl

end Typescribe.Snapshot
