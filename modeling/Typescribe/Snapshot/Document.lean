import Typescribe.Snapshot.Options
import Typescribe.Snapshot.Special

/-!
This module contains the reading of snapshot documents: the data model, and the definitions of the
fields that offer choices. Fields are read first, then collections, then relations.
-/

namespace Typescribe.Snapshot

variable {σ : Type}

/-- A member of a raw entry for a typed model; null stands for an absent one. -/
def entry (name : String) (value : Option Value) : Value × Value :=
  (.text name, value.getD .null)

def columnNullable (column : Value) : Except Cause Bool := do
  let nullable ← column.member? "is_nullable"
  return (nullable.getD (.bool true)).isTruthy

/-- Can the field be null? An alias can, as it has no column that says otherwise. -/
def isNullable (isAlias : Bool) (column : Value) : Except Cause Bool :=
  if isAlias then .ok true else columnNullable column

def buildField (raw : Value) : Except Cause Field := do
  let info := Value.orEmpty (← raw.member? "meta")
  let column := Value.orEmpty (← raw.member? "schema")
  let flags ← specialFlags ((← info.member? "special").getD .null)
  let tag ← raw.member? "type"
  let isAlias := isAliasField (tag.bind fun | .text s => some s | _ => none) flags
  let nullable ← isNullable isAlias column
  let collection ← raw.item "collection"
  let field ← raw.item "field"
  let note ← info.member? "note"
  let columnType ← column.member? "data_type"
  let model : Value := .mapping [
    entry "collection" collection, entry "field" field,
    entry "type" (Value.orElse tag (.text "unknown")), entry "nullable" (some (.bool nullable)),
    entry "alias" (some (.bool isAlias)), entry "note" note, entry "db_type" columnType]
  (Field.check model).result "Field"

def buildSides (info : Value) : Except Cause RelationMeta := do
  let manyCollection ← info.member? "many_collection"
  let manyField ← info.member? "many_field"
  let oneCollection ← info.member? "one_collection"
  let oneField ← info.member? "one_field"
  let junctionField ← info.member? "junction_field"
  let allowed ← specialFlags ((← info.member? "one_allowed_collections").getD .null)
  let model : Value := .mapping [
    entry "many_collection" manyCollection, entry "many_field" manyField,
    entry "one_collection" oneCollection, entry "one_field" oneField,
    entry "junction_field" junctionField,
    entry "one_allowed_collections" (some (.list (allowed.map .text)))]
  (RelationMeta.check model).result "RelationMeta"

def sidesOf (info : Value) : Except Cause (Option RelationMeta) :=
  if info.isTruthy then (buildSides info).map some else .ok none

def memberOfEither (name : String) (raw info : Value) : Except Cause (Option Value) := do
  match ← raw.member? name with
  | some value => if value.isTruthy then return some value else info.member? name
  | none => info.member? name

def buildRelation (raw : Value) : Except Cause Relation := do
  let info := Value.orEmpty (← raw.member? "meta")
  let column := Value.orEmpty (← raw.member? "schema")
  let sides ← sidesOf info
  let collection ← raw.item "collection"
  let field ← raw.item "field"
  let related ← raw.member? "related_collection"
  let foreignKey ← column.member? "foreign_key_column"
  let manyToMany ← memberOfEither "m2m_field" raw info
  let oneToMany ← memberOfEither "o2m_field" raw info
  let model : Value := .mapping [
    entry "collection" collection, entry "field" field, entry "related_collection" related,
    entry "foreign_key_column" foreignKey, entry "m2m_field" manyToMany,
    entry "o2m_field" oneToMany]
  let relation ← (Relation.check model).result "Relation"
  return { relation with sides }

abbrev FieldTable := List (String × List (String × Field))

def FieldTable.fieldsOf (table : FieldTable) (collection : String) : List (String × Field) :=
  (Ordered.get? collection table).getD []

/-- The table with one more field; it replaces an earlier field of that name. -/
def FieldTable.add (table : FieldTable) (field : Field) : FieldTable :=
  Ordered.put field.collection (Ordered.put field.field field (table.fieldsOf field.collection))
    table

def FieldTable.ofFields (fields : List Field) : FieldTable :=
  fields.foldl FieldTable.add []

def readField (raw : Value) : Step σ (Field × FieldDefinition) := do
  let field ← orFail (buildField raw)
  let info := Value.orEmpty (← orFail (raw.member? "meta"))
  let interface ← orFail (info.member? "interface")
  let options ← orFail (info.member? "options")
  let definition ← buildDefinition (.text field.collection) (.text field.field)
    (interface.getD .null) (options.getD .null)
  return (field, definition)

/-- Is the raw collection a folder: does it have a schema that is null? -/
def isFolder (raw : Value) : Bool :=
  match Value.lookup "schema" (pairsOf raw) with
  | some .null => true
  | _ => false

/--
A collection that a raw entry describes. The name of an entry can be a text, or the bytes that encode
one; these are different names, although a collection gets the same identifier from both.
-/
structure CollectionEntry where
  collection : Collection
  isEncoded : Bool := false
deriving DecidableEq, Repr

namespace CollectionEntry

def name (entry : CollectionEntry) : String × Bool :=
  (entry.collection.collection, entry.isEncoded)

/-- Does the entry name the collection as fields do, by its identifier? -/
def isNamed (id : String) (entry : CollectionEntry) : Bool :=
  entry.name = (id, false)

end CollectionEntry

def isEncodedName : Value → Bool
  | .bytes _ => true
  | _ => false

def readCollection (table : FieldTable) (raw : Value) : Step σ (Option CollectionEntry) := do
  let name ← orFail (raw.item "collection")
  if isFolder raw then
    Step.write ⟨.debug, .snapshot, "Skipping folder collection " ++ name.shown, name.shown, "-"⟩
    return none
  else
    let info := Value.orEmpty (← orFail (raw.member? "meta"))
    let singleton ← orFail (info.member? "singleton")
    if !name.isKey then
      Step.failWith .wrongKind
    else
      let id ← orFail (((Checked.asText name).under "collection").result "Collection")
      let isEncoded := isEncodedName name
      let fields := if isEncoded then [] else table.fieldsOf id
      return some ⟨⟨id, (singleton.getD (.bool false)).isTruthy, fields⟩, isEncoded⟩

/-- What a document says: the data model and the definitions of the fields that offer choices. -/
structure Contents where
  schema : Schema
  definitions : List FieldDefinition
deriving Repr

/-- The elements of a list of the document; an absent list is empty. -/
def section? (name : String) (document : Value) : Step σ (List Value) := do
  let list ← orFail (document.member? name)
  orFail (Value.orElse list (.list [])).elements

/--
The collections by their identifiers. The entries are kept by name first: in the order of the first
entries of the names, as the last ones say.
-/
def collectionTable (entries : List CollectionEntry) : List (String × Collection) :=
  let named := Ordered.ofList (entries.map fun entry => (entry.name, entry.collection))
  Ordered.ofList (named.map fun (_, c) => (c.collection, c))

def readContents (document : Value) : Step σ Contents := do
  let fields ← (← section? "fields" document).mapM readField
  let table := FieldTable.ofFields (fields.map (·.1))
  let entries ← (← section? "collections" document).mapM (readCollection table)
  let relations ← (← section? "relations" document).mapM fun raw => orFail (buildRelation raw)
  let entries := entries.filterMap id
  let offered := (fields.map (·.2)).filter (!·.choices.isEmpty)
  let known := offered.filter fun d => entries.any (·.isNamed d.collection)
  return ⟨⟨collectionTable entries, relations⟩, known⟩

/--
The fault of a malformed document. What has no members where members are looked up is no such fault.
-/
def malformed : Fault → Fault
  | .foreign (.missingKey key) => .source (.malformed (.missingKey key))
  | .foreign .wrongKind => .source (.malformed .wrongKind)
  | .foreign (.invalid model issues) => .source (.malformed (.invalid model issues))
  | fault => fault

def parse (document : Value) : Step σ Contents :=
  match document.opened with
  | .mapping _ => do
    match ← (readContents document).attempt with
    | .ok contents => return contents
    | .error fault => Step.fail (malformed fault)
  | _ => Step.fail (.source .noMapping)

end Typescribe.Snapshot
