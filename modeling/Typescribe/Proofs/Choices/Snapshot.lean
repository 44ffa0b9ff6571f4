import Typescribe.Proofs.Choices.Source
import Typescribe.Proofs.Snapshot.Contents

/-!
This module contains the choices that a document offers for its fields. A field is as its last raw
entry says; its choices are those of the last raw entry that has some, which can be an earlier one.
-/

namespace Typescribe

variable {σ τ : Type}

namespace Snapshot

/-- The raw fields of the given names, in the order of the document. -/
def rawFieldsOf (collection field : String) (rawFields : List Value) : List Value :=
  rawFields.filter fun raw =>
    textAt? "collection" raw = some collection && textAt? "field" raw = some field

/-- What is offered by a definition: nothing if it has no choices. -/
def offered (definition : FieldDefinition) : Option FieldDefinition :=
  (some definition).filter (!·.choices.isEmpty)

theorem offerOf?_of_fieldEntry {raw : Value} {field : Field} {definition : FieldDefinition}
    (h : fieldEntry raw = .ok (field, definition)) : offerOf? raw = offered definition := by
  rw [offerOf?, h]
  rfl

theorem of_offerOf? {raw : Value} {d : FieldDefinition} (h : offerOf? raw = some d) :
    textAt? "collection" raw = some d.collection ∧ textAt? "field" raw = some d.field := by
  rcases read : fieldEntry raw with cause | ⟨field, definition⟩
  · rw [offerOf?, read] at h
    cases h
  · rw [offerOf?_of_fieldEntry read] at h
    obtain ⟨same, -⟩ := Option.filter_eq_some_iff.mp h
    cases same
    obtain ⟨-, collection, name⟩ := of_fieldEntry read
    obtain ⟨-, rawCollection, rawName⟩ := describes_of_fieldEntry read
    exact ⟨collection ▸ rawCollection, name ▸ rawName⟩

theorem filter_offerOf? (collection field : String) (raw : Value) :
    (offerOf? raw).filter (fun d => (d.collection, d.field) = (collection, field))
      = if textAt? "collection" raw = some collection && textAt? "field" raw = some field then
          offerOf? raw
        else none := by
  cases offer : offerOf? raw with
  | none => simp
  | some d =>
    obtain ⟨sameCollection, sameField⟩ := of_offerOf? offer
    rw [sameCollection, sameField, Option.filter_some]
    simp only [Prod.mk.injEq, Option.some.injEq, Bool.decide_and]

theorem filter_filterMap_offerOf? (collection field : String) (rawFields : List Value) :
    (rawFields.filterMap offerOf?).filter
        (fun d => (d.collection, d.field) = (collection, field))
      = (rawFieldsOf collection field rawFields).filterMap offerOf? := by
  rw [List.filter_filterMap, rawFieldsOf, List.filterMap_filter]
  exact congrArg (List.filterMap · rawFields) (funext (filter_offerOf? collection field))

/-- A collection with a field has a raw entry that gives its name as a text. -/
theorem any_addsNamed_of_mem {document : Value} {contents : Contents} {rawCollections : List Value}
    (h : contentsOf document = .ok contents)
    (read : rawEntries "collections" document = .ok rawCollections) {item : String × Collection}
    (hitem : item ∈ contents.schema.collections) {member : String × Field}
    (hmember : member ∈ item.2.fields) : rawCollections.any (addsNamed item.1) := by
  obtain ⟨rawFields, -, h⟩ := bind_eq_ok.mp h
  obtain ⟨fields, -, h⟩ := bind_eq_ok.mp h
  obtain ⟨_, sameRead, h⟩ := bind_eq_ok.mp h
  cases read.symm.trans sameRead
  obtain ⟨entries, readEntries, h⟩ := bind_eq_ok.mp h
  obtain ⟨rawRelations, -, h⟩ := bind_eq_ok.mp h
  obtain ⟨relations, -, h⟩ := bind_eq_ok.mp h
  cases h
  change item ∈ collectionTable (entries.filterMap id) at hitem
  rw [filterMap_id_entries (forall₂_of_mapM_eq_ok readEntries)] at hitem
  obtain ⟨entry, hentry, rfl⟩ := exists_of_mem_collectionTable hitem
  obtain ⟨raw, hraw, adds⟩ := List.mem_filterMap.mp hentry
  obtain ⟨named, -, -, fieldsIf⟩ := entryOf?_eq_some adds
  rw [fieldsIf] at hmember
  refine List.any_eq_true.mpr ⟨raw, hraw, ?_⟩
  split at hmember
  · cases hmember
  · next plain => simp [addsNamed, named, plain]

end Snapshot

namespace ChoiceSource

open Snapshot

variable {document : Value} {contents : Contents} {s t : Session σ}

theorem get?_table_definitions {rawFields rawCollections rawRelations : List Value}
    (follows : contents.Follows rawFields rawCollections rawRelations) {collection : String}
    (known : rawCollections.any (addsNamed collection)) (field : String) :
    Ordered.get? (collection, field) (table contents.definitions)
      = ((rawFieldsOf collection field rawFields).filterMap offerOf?).getLast? := by
  rw [get?_table, follows.definitions_eq, List.filter_filter, ← filter_filterMap_offerOf?]
  congr 1
  apply List.filter_congr
  intro d _
  by_cases same : (d.collection, d.field) = (collection, field)
  · cases same
    simp [known]
  · simp [same]

theorem getLast?_filterMap_eq_iff {α β : Type} {f : α → Option β} {as : List α} {last : α}
    (h : as.getLast? = some last) :
    (as.filterMap f).getLast? = f last ↔ (f last = none → ∀ a ∈ as, f a = none) := by
  obtain ⟨front, rfl⟩ := List.getLast?_eq_some_iff.mp h
  cases found : f last with
  | none => simp [List.filterMap_append, or_imp, forall_and, found]
  | some b => simp [List.filterMap_append, found]

/--
What is found for a field of a document: the choices of its last raw entry that has some. These are
the choices of the entry that the field itself is taken from, unless that entry has no choices and
another one has.
-/
theorem lookup_ofDefinitions_eq_iff (h : Step.Yields (parse document) s contents t) :
    ∃ rawFields, rawEntries "fields" document = .ok rawFields
      ∧ ∀ item ∈ contents.schema.collections, ∀ member ∈ item.2.fields,
        let entries := rawFieldsOf item.1 member.1 rawFields
        ∃ last definition, entries.getLast? = some last
          ∧ fieldEntry last = .ok (member.2, definition)
          ∧ ∀ u : Session τ, ∃ answer,
            Step.Yields ((ofDefinitions contents.definitions).lookup item.1 member.1) u answer u
              ∧ answer = (entries.filterMap offerOf?).getLast?
              ∧ (answer = offered definition
                ↔ (definition.choices = [] → ∀ entry ∈ entries, offerOf? entry = none)) := by
  obtain ⟨-, rawFields, rawCollections, rawRelations, hFields, hCollections, -, follows⟩ :=
    follows_of_yields_parse h
  refine ⟨rawFields, hFields, ?_⟩
  intro item hitem member hmember entries
  have known := any_addsNamed_of_mem (contentsOf_of_yields_parse h) hCollections hitem hmember
  obtain ⟨last, found, built⟩ := follows.field_eq item hitem member hmember
  rw [find?_reverse_eq_getLast?_filter] at found
  have hlast : last ∈ rawFields := (List.mem_filter.mp (List.mem_of_getLast? found)).1
  obtain ⟨⟨field, definition⟩, read, described, -⟩ := follows.fields_read last hlast
  cases built.symm.trans described.built
  refine ⟨last, definition, found, read, fun u => ⟨_, Step.yields_pure.mpr ⟨rfl, rfl⟩, ?_, ?_⟩⟩
  · exact get?_table_definitions follows known member.1
  · have offers : offered definition = none ↔ definition.choices = [] := by
      simp [offered, Option.filter_some]
    rw [get?_table_definitions follows known, ← offerOf?_of_fieldEntry read, ← offers,
      ← offerOf?_of_fieldEntry read]
    exact getLast?_filterMap_eq_iff found

/-- A raw field of the name of `statusField`, with another type and without choices. -/
def countField : Value :=
  .mapping [(.text "collection", .text "posts"), (.text "field", .text "status"),
    (.text "type", .text "integer")]

/-- A document with two raw fields of one name. -/
def twiceDocument (first last : Value) : Value :=
  .mapping [(.text "collections", .list [.mapping [(.text "collection", .text "posts")]]),
    (.text "fields", .list [first, last])]

theorem lookup_ofDefinitions_laterChoices :
    ∃ t, Step.Yields (parse (twiceDocument countField statusField)) ⟨(), []⟩ postsContents t
      ∧ ∃ definition, fieldEntry statusField
          = .ok ({ collection := "posts", field := "status", typeTag := "string" }, definition)
        ∧ Step.Yields ((ofDefinitions postsContents.definitions).lookup "posts" "status") ⟨(), []⟩
          (offered definition) ⟨(), []⟩ := by
  have ending : Step.Yields (parse (twiceDocument countField statusField)) ⟨(), []⟩ postsContents
      ⟨(), []⟩ := by
    rfl
  obtain ⟨rawFields, hFields, found⟩ := lookup_ofDefinitions_eq_iff ending
  cases (rfl : rawEntries "fields" (twiceDocument countField statusField)
    = .ok [countField, statusField]).symm.trans hFields
  obtain ⟨last, definition, hlast, read, found⟩ :=
    found _ List.mem_cons_self _ List.mem_cons_self
  obtain ⟨answer, ending', -, same⟩ := found ⟨(), []⟩
  cases (rfl : (rawFieldsOf "posts" "status" [countField, statusField]).getLast?
    = some statusField).symm.trans hlast
  have choices : definition.choices ≠ [] := by
    cases (rfl : fieldEntry statusField = .ok (_, _)).symm.trans read
    exact List.cons_ne_nil _ _
  rw [same.mpr fun none => absurd none choices] at ending'
  exact ⟨_, ending, definition, read, ending'⟩

/-- A field is found to have choices although the raw entry that it is taken from has none. -/
theorem lookup_ofDefinitions_earlierChoices :
    ∃ contents t, Step.Yields (parse (twiceDocument statusField countField)) ⟨(), []⟩ contents t
      ∧ contents.schema.collection? (some "posts") = some {
          collection := "posts"
          fields := [("status",
            { collection := "posts", field := "status", typeTag := "integer" })] }
      ∧ offerOf? countField = none
      ∧ ∃ definition, offerOf? statusField = some definition
        ∧ Step.Yields ((ofDefinitions contents.definitions).lookup "posts" "status") ⟨(), []⟩
          (some definition) ⟨(), []⟩ :=
  ⟨⟨⟨[("posts", {
      collection := "posts"
      fields := [("status",
        { collection := "posts", field := "status", typeTag := "integer" })] })], []⟩,
      postsContents.definitions⟩,
    ⟨(), []⟩, by rfl, rfl, rfl, _, rfl, rfl⟩

end ChoiceSource

end Typescribe
