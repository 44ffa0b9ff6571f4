import Mathlib.Data.List.Find
import Typescribe.Proofs.Ordered
import Typescribe.Proofs.Snapshot.Document
import Typescribe.Proofs.Snapshot.Special

/-!
This module contains what the contents of a document have to do with its raw entries: which
collections there are and in which order, which fields each of them has, and which definitions and
relations are kept.
-/

namespace Typescribe.Snapshot

variable {σ : Type}

/-- The text that stands under a name in a raw entry, itself or as the bytes of it. -/
def textAt? (name : String) (raw : Value) : Option String :=
  match (memberOf name raw).map Checked.asText with
  | some (.valid s) => some s
  | _ => none

/-- The identifier of the collection that a raw entry adds; a folder adds none. -/
def idOf? (raw : Value) : Option String :=
  if isFolder raw then none else textAt? "collection" raw

def isSingleton (raw : Value) : Bool :=
  ((memberOf "singleton" (infoOf raw)).getD (.bool false)).isTruthy

def hasEncodedName (raw : Value) : Bool :=
  (memberOf "collection" raw).any isEncodedName

/-- Does a raw entry add the collection under its identifier itself, not the bytes of it? -/
def addsNamed (id : String) (raw : Value) : Bool :=
  idOf? raw = some id && !hasEncodedName raw

def offerOf? (raw : Value) : Option FieldDefinition :=
  ((fieldEntry raw).toOption.map (·.2)).filter (!·.choices.isEmpty)

theorem textAt?_eq_some {name s : String} {raw value : Value}
    (found : memberOf name raw = some value) (read : Checked.asText value = .valid s) :
    textAt? name raw = some s := by
  rw [textAt?, found, Option.map_some, read]

section Entries

variable {raw : Value}

theorem of_fieldCheck {pairs : List (Value × Value)} {field : Field}
    (h : Field.check (.mapping pairs) = .valid field) :
    (∃ value, Value.lookup "collection" pairs = some value
        ∧ Checked.asText value = .valid field.collection)
      ∧ (∃ value, Value.lookup "field" pairs = some value
        ∧ Checked.asText value = .valid field.field)
      ∧ (∀ b, Value.lookup "nullable" pairs = some (.bool b) → field.nullable = b)
      ∧ (∀ b, Value.lookup "alias" pairs = some (.bool b) → field.isAlias = b) := by
  simp only [Field.check, Checked.asModel, Checked.app_eq_valid, Checked.map_eq_valid,
    Checked.required_eq_valid] at h
  obtain ⟨_, _, ⟨_, _, ⟨_, _, ⟨_, _, ⟨_, _, ⟨_, _, ⟨_, collection, rfl⟩, name, rfl⟩, -, rfl⟩,
    nullable, rfl⟩, isAlias, rfl⟩, -, rfl⟩, -, rfl⟩ := h
  refine ⟨collection, name, ?_, ?_⟩
  · intro b given
    have read := (Checked.withDefault_eq_valid given).mp nullable
    cases read
    rfl
  · intro b given
    have read := (Checked.withDefault_eq_valid given).mp isAlias
    cases read
    rfl

theorem of_buildField {field : Field} (h : buildField raw = .ok field) :
    textAt? "collection" raw = some field.collection ∧ textAt? "field" raw = some field.field
      ∧ (field.isAlias → field.nullable)
      ∧ ∃ flags, specialFlags ((memberOf "special" (infoOf raw)).getD .null) = .ok flags
        ∧ (field.isAlias ↔ memberOf "type" raw = some (.text "alias")
          ∨ ∃ flag ∈ flags, flag ∈ aliasFlags) := by
  unfold buildField at h
  obtain ⟨info, infoMember, h⟩ := bind_eq_ok.mp h
  obtain ⟨column, -, h⟩ := bind_eq_ok.mp h
  obtain ⟨special, specialMember, h⟩ := bind_eq_ok.mp h
  obtain ⟨flags, flagsRead, h⟩ := bind_eq_ok.mp h
  obtain ⟨tag, tagMember, h⟩ := bind_eq_ok.mp h
  obtain ⟨nullable, nullability, h⟩ := bind_eq_ok.mp h
  obtain ⟨collection, collectionItem, h⟩ := bind_eq_ok.mp h
  obtain ⟨name, nameItem, h⟩ := bind_eq_ok.mp h
  obtain ⟨note, -, h⟩ := bind_eq_ok.mp h
  obtain ⟨columnType, -, h⟩ := bind_eq_ok.mp h
  rw [Checked.result_eq_ok] at h
  obtain ⟨⟨_, sameCollection, readCollection⟩, ⟨_, sameName, readName⟩, nullableIs, aliasIs⟩ :=
    of_fieldCheck h
  cases sameCollection
  cases sameName
  cases member?_eq_ok infoMember
  cases member?_eq_ok specialMember
  cases member?_eq_ok tagMember
  refine ⟨textAt?_eq_some (item_eq_ok collectionItem) readCollection,
    textAt?_eq_some (item_eq_ok nameItem) readName, ?_, flags, flagsRead, ?_⟩
  · -- The flag of the field is the one that was decided before, which left no other nullability.
    intro isAlias
    rw [aliasIs _ rfl] at isAlias
    rw [isNullable, if_pos isAlias] at nullability
    cases nullability
    exact nullableIs true rfl
  · rw [aliasIs _ rfl, isAliasField_iff]
    apply or_congr_left
    cases memberOf "type" raw with
    | none => simp
    | some tag => cases tag <;> simp

theorem of_fieldEntry {entry : Field × FieldDefinition} (h : fieldEntry raw = .ok entry) :
    buildField raw = .ok entry.1 ∧ entry.2.collection = entry.1.collection
      ∧ entry.2.field = entry.1.field := by
  unfold fieldEntry at h
  obtain ⟨field, built, h⟩ := bind_eq_ok.mp h
  obtain ⟨info, -, h⟩ := bind_eq_ok.mp h
  obtain ⟨interface, -, h⟩ := bind_eq_ok.mp h
  obtain ⟨options, -, h⟩ := bind_eq_ok.mp h
  obtain ⟨definition, defined, h⟩ := bind_eq_ok.mp h
  cases h
  obtain ⟨collection, name⟩ := of_definitionOf defined
  exact ⟨built, (Checked.valid.inj collection).symm, (Checked.valid.inj name).symm⟩

/-- The entry that a raw collection adds, which takes the fields that are known under its name. -/
def entryOf? (table : FieldTable) (raw : Value) : Option CollectionEntry :=
  (idOf? raw).map fun id =>
    ⟨⟨id, isSingleton raw, if hasEncodedName raw then [] else table.fieldsOf id⟩,
      hasEncodedName raw⟩

theorem of_collectionEntry {table : FieldTable} {entry : Option CollectionEntry}
    (h : collectionEntry table raw = .ok entry) :
    entry = entryOf? table raw ∧ (isFolder raw ∨ (idOf? raw).isSome) := by
  unfold collectionEntry at h
  obtain ⟨name, nameItem, h⟩ := bind_eq_ok.mp h
  unfold entryOf? idOf?
  split at h
  · next folder =>
    cases h
    rw [if_pos folder]
    exact ⟨rfl, .inl folder⟩
  · next table =>
    obtain ⟨info, infoMember, h⟩ := bind_eq_ok.mp h
    obtain ⟨singleton, singletonMember, h⟩ := bind_eq_ok.mp h
    split at h
    · cases h
    · obtain ⟨id, idRead, h⟩ := bind_eq_ok.mp h
      cases h
      cases member?_eq_ok infoMember
      cases member?_eq_ok singletonMember
      rw [Checked.result_eq_ok, Checked.under_eq_valid] at idRead
      have named := item_eq_ok nameItem
      have encoded : hasEncodedName raw = isEncodedName name := by
        rw [hasEncodedName, named]
        rfl
      rw [if_neg table, textAt?_eq_some named idRead, encoded]
      exact ⟨rfl, .inr rfl⟩

end Entries

namespace FieldTable

theorem fieldsOf_add (table : FieldTable) (field : Field) (id : String) :
    (table.add field).fieldsOf id
      = if field.collection = id then Ordered.put field.field field (table.fieldsOf id)
        else table.fieldsOf id := by
  unfold add
  rw [fieldsOf, Ordered.get?_put]
  split
  · next same =>
    rw [same]
    rfl
  · rfl

theorem fieldsOf_ofFields (fields : List Field) (id : String) :
    (ofFields fields).fieldsOf id
      = Ordered.putAll Field.field (fun field => field) (fields.filter (·.collection = id)) [] := by
  induction fields using List.reverseRecOn with
  | nil => rfl
  | append_singleton fields field ih =>
    have step : ofFields (fields ++ [field]) = (ofFields fields).add field := by
      rw [ofFields, List.foldl_append]
      rfl
    rw [step, fieldsOf_add, List.filter_append]
    by_cases same : field.collection = id
    · rw [if_pos same, ih, List.filter_cons_of_pos (by simpa using same), List.filter_nil,
        Ordered.putAll_concat]
    · rw [if_neg same, ih, List.filter_cons_of_neg (by simpa using same), List.filter_nil,
        List.append_nil]

end FieldTable

section Collections

variable {entries : List CollectionEntry} {item : String × Collection}

theorem collectionTable_eq_putAll (entries : List CollectionEntry) :
    collectionTable entries
      = Ordered.putAll (·.2.collection) (·.2)
        (Ordered.putAll CollectionEntry.name CollectionEntry.collection entries []) [] := by
  unfold collectionTable
  rw [Ordered.ofList_map_eq_putAll, Ordered.ofList_map_eq_putAll]

theorem exists_of_mem_collectionTable (h : item ∈ collectionTable entries) :
    ∃ entry ∈ entries, item = (entry.collection.collection, entry.collection) := by
  rw [collectionTable_eq_putAll] at h
  obtain ⟨named, hnamed, rfl⟩ := Ordered.mem_putAll h
  obtain ⟨entry, hentry, rfl⟩ := Ordered.mem_putAll hnamed
  exact ⟨entry, hentry, rfl⟩

theorem map_fst_collectionTable (entries : List CollectionEntry) :
    (collectionTable entries).map (·.1)
      = (entries.map (·.collection.collection)).eraseDups := by
  -- An identifier can have two names, which count once from the first of them on.
  have ids : ∀ named ∈ Ordered.putAll CollectionEntry.name CollectionEntry.collection entries [],
      named.2.collection = named.1.1 := by
    intro named h
    obtain ⟨entry, -, rfl⟩ := Ordered.mem_putAll h
    rfl
  rw [collectionTable_eq_putAll, Ordered.map_fst_putAll, List.map_congr_left ids,
    ← Function.comp_def, ← List.map_map, Ordered.map_fst_putAll, Ordered.eraseDups_map_eraseDups,
    List.map_map]
  rfl

theorem last_of_mem_collectionTable (h : item ∈ collectionTable entries)
    (plain : ∀ entry ∈ entries, entry.collection.collection = item.1 → entry.isEncoded = false) :
    (entries.reverse.find? (·.collection.collection = item.1)).map (·.collection)
      = some item.2 := by
  rw [collectionTable_eq_putAll] at h
  obtain ⟨named, hnamed, rfl⟩ := Ordered.mem_putAll h
  have last := Ordered.get?_of_mem (Ordered.nodup_putAll _ _ _) hnamed
  obtain ⟨entry, hentry, rfl⟩ := Ordered.mem_putAll hnamed
  rw [Ordered.get?_putAll, Ordered.get?, Option.or_none] at last
  -- Entries are kept by name: the last one of the name is the last one of the identifier only if
  -- no entry gives the name as bytes.
  rw [← last]
  congr 1
  apply List.find?_congr
  intro other hother
  have unencoded := plain entry hentry rfl
  rw [List.mem_reverse] at hother
  rw [decide_eq_decide, CollectionEntry.name, CollectionEntry.name, Prod.mk.injEq, unencoded]
  constructor
  · intro same
    exact ⟨same, plain other hother same⟩
  · exact fun same => same.1

end Collections

structure Describes (raw : Value) (field : Field) : Prop where
  built : buildField raw = .ok field
  collection : textAt? "collection" raw = some field.collection
  name : textAt? "field" raw = some field.field

section Fields

variable {rawFields : List Value} {fields : List Field} {id : String} {member : String × Field}

theorem describes_of_fieldEntry {raw : Value} {entry : Field × FieldDefinition}
    (h : fieldEntry raw = .ok entry) : Describes raw entry.1 := by
  obtain ⟨built, -, -⟩ := of_fieldEntry h
  obtain ⟨collection, name, -⟩ := of_buildField built
  exact ⟨built, collection, name⟩

theorem map_fst_fieldsOf (h : List.Forall₂ Describes rawFields fields) (id : String) :
    ((FieldTable.ofFields fields).fieldsOf id).map (·.1)
      = ((rawFields.filter (textAt? "collection" · = some id)).filterMap
        (textAt? "field")).eraseDups := by
  have kept : List.Forall₂ Describes (rawFields.filter (textAt? "collection" · = some id))
      (fields.filter (·.collection = id)) := by
    apply List.rel_filter _ h
    intro raw field described
    simp [described.collection]
  rw [FieldTable.fieldsOf_ofFields, Ordered.map_fst_putAll,
    filterMap_eq_map_of_forall₂ kept fun _ _ described => described.name]

theorem of_mem_fieldsOf (h : member ∈ (FieldTable.ofFields fields).fieldsOf id) :
    member.1 = member.2.field ∧ member.2.collection = id ∧ member.2 ∈ fields := by
  rw [FieldTable.fieldsOf_ofFields] at h
  obtain ⟨field, hfield, rfl⟩ := Ordered.mem_putAll h
  obtain ⟨known, same⟩ := List.mem_filter.mp hfield
  exact ⟨rfl, of_decide_eq_true same, known⟩

theorem last_of_mem_fieldsOf (h : List.Forall₂ Describes rawFields fields)
    (hmember : member ∈ (FieldTable.ofFields fields).fieldsOf id) :
    ∃ raw, rawFields.reverse.find? (fun raw =>
        textAt? "collection" raw = some id && textAt? "field" raw = some member.1) = some raw
      ∧ buildField raw = .ok member.2 := by
  rw [FieldTable.fieldsOf_ofFields] at hmember
  have last := Ordered.get?_of_mem (Ordered.nodup_putAll _ _ _) hmember
  rw [Ordered.get?_putAll, Ordered.get?, Option.or_none, Option.map_id', ← List.filter_reverse,
    List.find?_filter] at last
  obtain ⟨raw, found, described⟩ := find?_of_forall₂ (List.rel_reverse h)
    (p := fun raw => textAt? "collection" raw = some id && textAt? "field" raw = some member.1)
    (fun raw field described => by simp [described.collection, described.name]) last
  exact ⟨raw, found, described.built⟩

end Fields

section Entries

variable {rawCollections : List Value} {table : FieldTable} {id : String}

/-- No raw entry gives the name of the collection as bytes. -/
def IsPlainlyNamed (id : String) (rawCollections : List Value) : Prop :=
  ∀ raw ∈ rawCollections, idOf? raw = some id → hasEncodedName raw = false

theorem entryOf?_eq_some {raw : Value} {entry : CollectionEntry}
    (h : entryOf? table raw = some entry) :
    idOf? raw = some entry.collection.collection ∧ entry.isEncoded = hasEncodedName raw
      ∧ entry.collection.singleton = isSingleton raw
      ∧ entry.collection.fields
        = if hasEncodedName raw then [] else table.fieldsOf entry.collection.collection := by
  unfold entryOf? at h
  obtain ⟨id, hid, rfl⟩ := Option.map_eq_some_iff.mp h
  exact ⟨hid, rfl, rfl, rfl⟩

theorem map_fst_collectionTable_entries (table : FieldTable) (rawCollections : List Value) :
    (collectionTable (rawCollections.filterMap (entryOf? table))).map (·.1)
      = (rawCollections.filterMap idOf?).eraseDups := by
  have ids : (fun raw => (entryOf? table raw).map (·.collection.collection)) = idOf? := by
    funext raw
    unfold entryOf?
    cases idOf? raw <;> rfl
  rw [map_fst_collectionTable, List.map_filterMap, ids]

theorem any_isNamed_entries (table : FieldTable) (rawCollections : List Value) (id : String) :
    (rawCollections.filterMap (entryOf? table)).any (·.isNamed id)
      = rawCollections.any (addsNamed id) := by
  rw [List.any_filterMap]
  congr 1
  funext raw
  unfold addsNamed entryOf?
  cases idOf? raw with
  | none => rfl
  | some other =>
    simp only [Option.map_some, CollectionEntry.isNamed, CollectionEntry.name]
    cases hasEncodedName raw <;> simp

theorem any_addsNamed_iff (plain : IsPlainlyNamed id rawCollections) :
    rawCollections.any (addsNamed id) ↔ id ∈ (rawCollections.filterMap idOf?).eraseDups := by
  rw [List.mem_eraseDups, List.mem_filterMap, List.any_eq_true]
  constructor
  · rintro ⟨raw, hraw, adds⟩
    rw [addsNamed, Bool.and_eq_true] at adds
    exact ⟨raw, hraw, of_decide_eq_true adds.1⟩
  · rintro ⟨raw, hraw, adds⟩
    refine ⟨raw, hraw, ?_⟩
    rw [addsNamed, adds, plain raw hraw adds]
    simp

theorem any_entryOf? (table : FieldTable) (raw : Value) (id : String) :
    (entryOf? table raw).any (·.collection.collection = id) = decide (idOf? raw = some id) := by
  unfold entryOf?
  cases idOf? raw <;> simp

theorem last_of_mem_entries {item : String × Collection}
    (h : item ∈ collectionTable (rawCollections.filterMap (entryOf? table)))
    (plain : IsPlainlyNamed item.1 rawCollections) :
    ∃ raw, rawCollections.reverse.find? (idOf? · = some item.1) = some raw
      ∧ item.2.singleton = isSingleton raw ∧ item.2.fields = table.fieldsOf item.1 := by
  have last := last_of_mem_collectionTable h (by
    intro entry hentry same
    obtain ⟨raw, hraw, adds⟩ := List.mem_filterMap.mp hentry
    obtain ⟨id, encoded, -, -⟩ := entryOf?_eq_some adds
    rw [encoded]
    exact plain raw hraw (same ▸ id))
  rw [← List.filterMap_reverse, List.find?_filterMap] at last
  simp only [any_entryOf?] at last
  obtain ⟨entry, hentry, same⟩ := Option.map_eq_some_iff.mp last
  obtain ⟨raw, found, adds⟩ := Option.bind_eq_some_iff.mp hentry
  obtain ⟨id, -, singleton, fields⟩ := entryOf?_eq_some adds
  have named : idOf? raw = some item.1 := by simpa using List.find?_some found
  have hraw := List.mem_reverse.mp (List.mem_of_find?_eq_some found)
  rw [plain raw hraw named, if_neg Bool.false_ne_true] at fields
  refine ⟨raw, found, ?_, ?_⟩
  · rw [← same, singleton]
  · rw [← same, fields, Option.some.inj (id.symm.trans named)]

end Entries

/-- Keys are the names of what they lead to, and an alias can be null. -/
structure Contents.IsWellFormed (contents : Contents) : Prop where
  collection_key : ∀ item ∈ contents.schema.collections, item.1 = item.2.collection
  field_key : ∀ item ∈ contents.schema.collections, ∀ member ∈ item.2.fields,
    member.1 = member.2.field ∧ member.2.collection = item.1
  nullable_of_isAlias : ∀ item ∈ contents.schema.collections, ∀ member ∈ item.2.fields,
    member.2.isAlias → member.2.nullable

/--
What becomes of the raw entries of a document. Collections stand in the order of their first
entries. Where none of its entries gives the name as bytes, the last entry of a collection decides,
and the collection has the fields that name it: in the order of their first entries, as the last
ones say.
-/
structure Contents.Follows (contents : Contents)
    (rawFields rawCollections rawRelations : List Value) : Prop where
  fields_read : ∀ raw ∈ rawFields, ∃ entry, fieldEntry raw = .ok entry ∧ Describes raw entry.1
    ∧ entry.2.collection = entry.1.collection ∧ entry.2.field = entry.1.field
  collections_read : ∀ raw ∈ rawCollections, isFolder raw ∨ (idOf? raw).isSome
  ids_eq : contents.schema.collections.map (·.1) = (rawCollections.filterMap idOf?).eraseDups
  relations_read : List.Forall₂ (fun raw relation => buildRelation raw = .ok relation) rawRelations
    contents.schema.relations
  definitions_eq : contents.definitions
    = (rawFields.filterMap offerOf?).filter fun d => rawCollections.any (addsNamed d.collection)
  known_iff : ∀ id, IsPlainlyNamed id rawCollections →
    (rawCollections.any (addsNamed id) ↔ id ∈ contents.schema.collections.map (·.1))
  singleton_eq : ∀ item ∈ contents.schema.collections, IsPlainlyNamed item.1 rawCollections →
    (rawCollections.reverse.find? (idOf? · = some item.1)).map isSingleton
      = some item.2.singleton
  field_names_eq : ∀ item ∈ contents.schema.collections, IsPlainlyNamed item.1 rawCollections →
    item.2.fields.map (·.1)
      = ((rawFields.filter (textAt? "collection" · = some item.1)).filterMap
        (textAt? "field")).eraseDups
  field_eq : ∀ item ∈ contents.schema.collections, ∀ member ∈ item.2.fields,
    ∃ raw, rawFields.reverse.find? (fun raw =>
        textAt? "collection" raw = some item.1 && textAt? "field" raw = some member.1) = some raw
      ∧ buildField raw = .ok member.2

section Contents

variable {rawFields rawCollections rawRelations : List Value}
  {fields : List (Field × FieldDefinition)} {entries : List (Option CollectionEntry)}
  {relations : List Relation} {item : String × Collection}

theorem filterMap_id_entries {table : FieldTable}
    (h : List.Forall₂ (fun raw entry => collectionEntry table raw = .ok entry) rawCollections
      entries) : entries.filterMap id = rawCollections.filterMap (entryOf? table) := by
  have same := filterMap_eq_map_of_forall₂ (f := fun raw => some (entryOf? table raw)) (g := id) h
    fun raw entry read => by rw [(of_collectionEntry read).1]; rfl
  rw [List.map_id] at same
  rw [← same, List.filterMap_filterMap]
  rfl

theorem of_mem_collections {table : FieldTable}
    (h : item ∈ collectionTable (rawCollections.filterMap (entryOf? table))) :
    item.1 = item.2.collection
      ∧ ∀ member ∈ item.2.fields, member ∈ table.fieldsOf item.1 := by
  obtain ⟨entry, hentry, rfl⟩ := exists_of_mem_collectionTable h
  obtain ⟨raw, -, adds⟩ := List.mem_filterMap.mp hentry
  obtain ⟨-, -, -, fields⟩ := entryOf?_eq_some adds
  refine ⟨rfl, ?_⟩
  intro member hmember
  rw [fields] at hmember
  split at hmember
  · cases hmember
  · exact hmember

theorem offers_eq
    (h : List.Forall₂ (fun raw entry => fieldEntry raw = .ok entry) rawFields fields) :
    (fields.map (·.2)).filter (!·.choices.isEmpty) = rawFields.filterMap offerOf? := by
  have same := filterMap_eq_map_of_forall₂ (f := fun raw => (fieldEntry raw).toOption.map (·.2)) h
    fun raw entry read => by rw [read]; rfl
  rw [← same, List.filter_filterMap]
  rfl

theorem describes_fields
    (h : List.Forall₂ (fun raw entry => fieldEntry raw = .ok entry) rawFields fields) :
    List.Forall₂ Describes rawFields (fields.map (·.1)) :=
  List.forall₂_map_right_iff.mpr (h.imp fun _ _ => describes_of_fieldEntry)

variable
  (readFields : List.Forall₂ (fun raw entry => fieldEntry raw = .ok entry) rawFields fields)
  (readEntries : List.Forall₂ (fun raw entry =>
    collectionEntry (FieldTable.ofFields (fields.map (·.1))) raw = .ok entry)
    rawCollections entries)

include readFields readEntries

theorem isWellFormed_assemble : (assemble fields entries relations).IsWellFormed := by
  have collections : (assemble fields entries relations).schema.collections
      = collectionTable (entries.filterMap id) := rfl
  rw [filterMap_id_entries readEntries] at collections
  constructor <;> rw [collections] <;> intro item hitem
  · exact (of_mem_collections hitem).1
  · intro member hmember
    obtain ⟨name, collection, -⟩ := of_mem_fieldsOf ((of_mem_collections hitem).2 member hmember)
    exact ⟨name, collection⟩
  · intro member hmember
    obtain ⟨-, -, known⟩ := of_mem_fieldsOf ((of_mem_collections hitem).2 member hmember)
    obtain ⟨raw, -, described⟩ := exists_of_mem_right (describes_fields readFields) known
    exact (of_buildField described.built).2.2.1

theorem follows_assemble (readRelations : List.Forall₂ (fun raw relation =>
    buildRelation raw = .ok relation) rawRelations relations) :
    (assemble fields entries relations).Follows rawFields rawCollections rawRelations := by
  have described := describes_fields readFields
  have collections : (assemble fields entries relations).schema.collections
      = collectionTable (entries.filterMap id) := rfl
  rw [filterMap_id_entries readEntries] at collections
  have ids := map_fst_collectionTable_entries (FieldTable.ofFields (fields.map (·.1)))
    rawCollections
  rw [← collections] at ids
  constructor
  case fields_read =>
    intro raw hraw
    obtain ⟨entry, -, read⟩ := exists_of_mem_left readFields hraw
    exact ⟨entry, read, describes_of_fieldEntry read, (of_fieldEntry read).2⟩
  case collections_read =>
    intro raw hraw
    obtain ⟨entry, -, read⟩ := exists_of_mem_left readEntries hraw
    exact (of_collectionEntry read).2
  case ids_eq => exact ids
  case relations_read => exact readRelations
  case definitions_eq =>
    simp only [assemble]
    rw [filterMap_id_entries readEntries, offers_eq readFields]
    simp only [any_isNamed_entries]
  case known_iff =>
    intro id plain
    rw [ids]
    exact any_addsNamed_iff plain
  case singleton_eq =>
    intro item hitem plain
    rw [collections] at hitem
    obtain ⟨raw, found, singleton, -⟩ := last_of_mem_entries hitem plain
    rw [found, singleton]
    rfl
  case field_names_eq =>
    intro item hitem plain
    rw [collections] at hitem
    obtain ⟨-, -, -, fields⟩ := last_of_mem_entries hitem plain
    rw [fields, map_fst_fieldsOf described]
  case field_eq =>
    intro item hitem member hmember
    rw [collections] at hitem
    exact last_of_mem_fieldsOf described ((of_mem_collections hitem).2 member hmember)

end Contents

theorem contentsOf_of_yields_parse {document : Value} {s t : Session σ} {contents : Contents}
    (h : Step.Yields (parse document) s contents t) : contentsOf document = .ok contents := by
  by_cases opened : ∃ pairs, document.opened = .mapping pairs
  · obtain ⟨pairs, opened⟩ := opened
    have read := (isPlain_parse opened).of_yields h
    rcases found : contentsOf document with cause | other
    · rw [found] at read
      cases read
    · rw [found] at read
      cases read
      rfl
  · rw [Step.Yields, run_parse_of_not_mapping (not_exists.mp opened)] at h
    cases h

theorem isWellFormed_of_contentsOf {document : Value} {contents : Contents}
    (h : contentsOf document = .ok contents) : contents.IsWellFormed := by
  obtain ⟨rawFields, -, h⟩ := bind_eq_ok.mp h
  obtain ⟨fields, readFields, h⟩ := bind_eq_ok.mp h
  obtain ⟨rawCollections, -, h⟩ := bind_eq_ok.mp h
  obtain ⟨entries, readEntries, h⟩ := bind_eq_ok.mp h
  obtain ⟨rawRelations, -, h⟩ := bind_eq_ok.mp h
  obtain ⟨relations, -, h⟩ := bind_eq_ok.mp h
  cases h
  exact isWellFormed_assemble (forall₂_of_mapM_eq_ok readFields)
    (forall₂_of_mapM_eq_ok readEntries)

/--
The contents that a document is read to: the data model is well formed, and says what the raw
entries say.
-/
theorem follows_of_yields_parse {document : Value} {s t : Session σ} {contents : Contents}
    (h : Step.Yields (parse document) s contents t) :
    contents.IsWellFormed
      ∧ ∃ rawFields rawCollections rawRelations, rawEntries "fields" document = .ok rawFields
        ∧ rawEntries "collections" document = .ok rawCollections
        ∧ rawEntries "relations" document = .ok rawRelations
        ∧ contents.Follows rawFields rawCollections rawRelations := by
  have read := contentsOf_of_yields_parse h
  obtain ⟨rawFields, hFields, read⟩ := bind_eq_ok.mp read
  obtain ⟨fields, readFields, read⟩ := bind_eq_ok.mp read
  obtain ⟨rawCollections, hCollections, read⟩ := bind_eq_ok.mp read
  obtain ⟨entries, readEntries, read⟩ := bind_eq_ok.mp read
  obtain ⟨rawRelations, hRelations, read⟩ := bind_eq_ok.mp read
  obtain ⟨relations, readRelations, read⟩ := bind_eq_ok.mp read
  cases read
  have readFields := forall₂_of_mapM_eq_ok readFields
  have readEntries := forall₂_of_mapM_eq_ok readEntries
  exact ⟨isWellFormed_assemble readFields readEntries, rawFields, rawCollections, rawRelations,
    hFields, hCollections, hRelations,
    follows_assemble readFields readEntries (forall₂_of_mapM_eq_ok readRelations)⟩

def statusField : Value :=
  .mapping [(.text "collection", .text "posts"), (.text "field", .text "status"),
    (.text "type", .text "string"),
    (.text "meta", .mapping [(.text "options", .mapping [(.text "choices", .list [.text "new"])])])]

/-- A document with one collection, under the given name, and one field. -/
def postsDocument (name : Value) : Value :=
  .mapping [(.text "collections", .list [.mapping [(.text "collection", name)]]),
    (.text "fields", .list [statusField])]

def postsContents : Contents where
  schema.collections := [("posts", {
    collection := "posts"
    fields := [("status", { collection := "posts", field := "status", typeTag := "string" })] })]
  definitions := [{ collection := "posts", field := "status", choices := [⟨.text "new", some "new"⟩] }]

theorem follows_postsDocument :
    ∃ t, Step.Yields (parse (postsDocument (.text "posts"))) ⟨(), []⟩ postsContents t
      ∧ ∃ rawFields rawCollections rawRelations,
        rawEntries "relations" (postsDocument (.text "posts")) = .ok rawRelations
          ∧ postsContents.Follows rawFields rawCollections rawRelations := by
  have ending : Step.Yields (parse (postsDocument (.text "posts"))) ⟨(), []⟩ postsContents
      ⟨(), []⟩ := by
    rfl
  obtain ⟨-, rawFields, rawCollections, rawRelations, -, -, relations, follows⟩ :=
    follows_of_yields_parse ending
  exact ⟨_, ending, rawFields, rawCollections, rawRelations, relations, follows⟩

/-- The bytes of a name lose the fields of the collection and their choices. -/
theorem not_follows_encodedPosts :
    ∃ contents t, Step.Yields (parse (postsDocument (.bytes [112, 111, 115, 116, 115]))) ⟨(), []⟩
        contents t
      ∧ contents.schema.collections = [("posts", { collection := "posts" })]
      ∧ contents.definitions = []
      ∧ rawEntries "fields" (postsDocument (.bytes [112, 111, 115, 116, 115])) = .ok [statusField]
      ∧ textAt? "collection" statusField = some "posts"
      ∧ (offerOf? statusField).map (·.collection) = some "posts" :=
  ⟨⟨⟨[("posts", { collection := "posts" })], []⟩, []⟩, ⟨(), []⟩, by rfl, rfl, rfl, rfl, rfl, rfl⟩

end Typescribe.Snapshot
