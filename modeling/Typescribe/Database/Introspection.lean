import Typescribe.Database.Basic
import Typescribe.Database.ColumnType
import Typescribe.Database.Declaration
import Typescribe.Schema.Basic
import Typescribe.Snapshot.Special
import Typescribe.Step

/-!
This module contains the data model of a database: the collections are its tables, and the fields of
a collection are first its columns and then its registered fields without a column.
-/

namespace Typescribe.Database

variable {σ : Type}

def FieldRow.flags (row : FieldRow) : List String :=
  match row.special with
  | none => []
  | some text => Snapshot.splitFlags text

/-- The order of registered fields: those with a place come first, by place and then by number. -/
def FieldRow.precedes (a b : FieldRow) : Bool :=
  match a.sort, b.sort with
  | some m, some n => m < n || (m = n && a.id ≤ b.id)
  | some _, none => true
  | none, some _ => false
  | none, none => a.id ≤ b.id

/-- The registered fields of a table in their order. -/
def rowsOfTable (rows : List FieldRow) (table : String) : List FieldRow :=
  (rows.mergeSort FieldRow.precedes).filter (·.collection = table)

/-- The registration of a field: the last one in the order of the rows. -/
def registration? (rows : List FieldRow) (field : String) : Option FieldRow :=
  rows.reverse.find? (·.field = field)

def columnField (table : String) (rows : List FieldRow) (column : Column) : Except Cause Field := do
  let row := registration? rows column.name
  let declaration := ColumnDeclaration.ofString column.declaration
  let type ← ColumnType.ofDeclaration declaration.type
  return {
    collection := table
    field := column.name
    typeTag := columnTag type.kind ((row.map FieldRow.flags).getD [])
    nullable := column.nullable && !declaration.forbidsNull
    isAlias := false
    note := row.bind (·.note)
    columnType := some type.text }

def columnFields (table : Table) (rows : List FieldRow) : Except Cause (List (String × Field)) := do
  return Ordered.ofList (← table.columns.mapM fun column => do
    return (column.name, ← columnField table.name rows column))

def aliasField (table : String) (row : FieldRow) : Field :=
  { collection := table
    field := row.field
    typeTag := "alias"
    nullable := true
    isAlias := true
    note := row.note
    columnType := none }

/-- Fields by their names, and registrations that are of no use. -/
structure Merged where
  fields : List (String × Field)
  useless : List FieldRow := []

def FieldRow.isAlias (row : FieldRow) : Bool :=
  Snapshot.isAliasField none row.flags

/-- Adds the field of a registration, unless there is one of that name already. -/
def Merged.add (table : String) (merged : Merged) (row : FieldRow) : Merged :=
  if (Ordered.get? row.field merged.fields).isSome then merged
  else if row.isAlias then
    { merged with fields := merged.fields ++ [(row.field, aliasField table row)] }
  else { merged with useless := merged.useless ++ [row] }

/-- The fields of a table: those of its columns, and then those that are registered without one. -/
def mergeFields (table : Table) (rows : List FieldRow) : Except Cause Merged := do
  return rows.foldl (Merged.add table.name) ⟨← columnFields table rows, []⟩

/-- The registered collection of a name; a later row replaces an earlier one. -/
def collectionRow? (rows : List CollectionRow) (name : String) : Option CollectionRow :=
  rows.reverse.find? (·.collection = name)

def collectionOf (rows : List CollectionRow) (table : Table) (fields : List (String × Field)) :
    Collection :=
  { collection := table.name
    singleton := ((collectionRow? rows table.name).map (·.singleton)).getD false
    fields }

def foreignKeyColumn? (tables : List Table) (table column : String) : Option String :=
  match tables.find? (·.name = table) with
  | none => none
  | some table =>
    (table.foreignKeys.find? fun key => key.columns = [column] && !key.referred.isEmpty).bind
      (·.referred.head?)

/-- The targets of a relation without a single one; they are separated by commas. -/
def RelationRow.allowedCollections (row : RelationRow) : List String :=
  match row.oneAllowedCollections with
  | none => []
  | some text => Snapshot.splitFlags text

def relationOf (tables : List Table) (row : RelationRow) : Relation :=
  { collection := row.manyCollection
    field := row.manyField
    relatedCollection := row.oneCollection
    foreignKeyColumn := foreignKeyColumn? tables row.manyCollection row.manyField
    sides := some {
      manyCollection := some row.manyCollection
      manyField := some row.manyField
      oneCollection := row.oneCollection
      oneField := row.oneField
      junctionField := row.junctionField
      oneAllowedCollections := row.allowedCollections } }

def isSystemTable (table : Table) : Bool :=
  Text.startsWith "directus_".toList table.name.toList

def tablesOf (db : Database) (includeSystem : Bool) : List Table :=
  db.allTables.filter fun table => includeSystem || !isSystemTable table

structure SystemRows where
  collections : List CollectionRow
  fields : List FieldRow
  relations : List RelationRow

def readRows (db : Database) : Except Cause SystemRows := do
  let collections ← db.readCollections
  let fields ← db.readFields
  let relations ← db.readRelations
  return ⟨collections, fields, relations⟩

def logUseless (table : Table) (rows : List FieldRow) : Step σ Unit :=
  rows.forM fun row =>
    Step.write ⟨.debug, .introspection, "directus_fields row without a column",
      table.name, row.field⟩

def readTable (rows : SystemRows) (table : Table) : Step σ (String × Collection) := do
  let merged ← Step.ofExcept
    ((mergeFields table (rowsOfTable rows.fields table.name)).mapError .foreign)
  logUseless table merged.useless
  return (table.name, collectionOf rows.collections table merged.fields)

/-- The fault of a database that cannot be read. -/
def unreadable : Cause → Fault
  | .database => .source (.introspection .database)
  | cause => .foreign cause

def introspect (db : Database) (includeSystem : Bool) : Step σ Schema := do
  let rows ← Step.ofExcept (db.readRows.mapError unreadable)
  let tables := db.tablesOf includeSystem
  let collections ← tables.mapM (readTable rows)
  let schema : Schema := ⟨collections, rows.relations.map (relationOf tables)⟩
  Step.write {
    level := .info
    origin := .introspection
    message := "Introspected " ++ toString schema.collections.length ++ " collections and "
      ++ toString schema.relations.length ++ " relations" }
  return schema

end Typescribe.Database
