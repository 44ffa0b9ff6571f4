import Typescribe.Fault

/-!
This module contains the part of a database that describes a project: the columns and foreign keys
of its tables, and the rows of the three system tables that register collections, fields and
relations.
-/

namespace Typescribe

namespace Database

structure Column where
  name : String
  declaration : String
  nullable : Bool := true
deriving DecidableEq, Repr

/-- A foreign key: columns of a table that refer to columns of another one. -/
structure ForeignKey where
  columns : List String
  referred : List String
deriving DecidableEq, Repr

/-- A table. Its foreign keys stand in the order in which the database reports them. -/
structure Table where
  name : String
  columns : List Column
  foreignKeys : List ForeignKey := []
deriving DecidableEq, Repr

/-- The columns and the foreign keys of a system table; its rows are kept apart. -/
structure Shape where
  columns : List Column
  foreignKeys : List ForeignKey := []
deriving DecidableEq, Repr

def Shape.table (shape : Shape) (name : String) : Table :=
  { name, columns := shape.columns, foreignKeys := shape.foreignKeys }

/-- Are there columns of the given names? They are found in either letter case. -/
def Shape.hasColumns (shape : Shape) (names : List String) : Bool :=
  names.all fun name => shape.columns.any fun column =>
    column.name.toList.map Char.toLower = name.toList

structure CollectionRow where
  collection : String
  singleton : Bool := false
deriving DecidableEq, Repr

/-- A registered field. Its options are kept as JSON text. -/
structure FieldRow where
  id : Int
  collection : String
  field : String
  special : Option String := none
  interface : Option String := none
  options : Option String := none
  note : Option String := none
  sort : Option Int := none
deriving DecidableEq, Repr

structure RelationRow where
  id : Int
  manyCollection : String
  manyField : String
  oneCollection : Option String := none
  oneField : Option String := none
  junctionField : Option String := none
  oneAllowedCollections : Option String := none
deriving DecidableEq, Repr

def isNumberSpace (c : Char) : Bool :=
  c = ' ' || (0x09 ≤ c.toNat && c.toNat ≤ 0x0D)

def number? (text : String) : Option Float :=
  let cs := (text.toList.map Char.toLower).dropWhile isNumberSpace
  let cs := (cs.reverse.dropWhile isNumberSpace).reverse
  if cs.contains 'n' then none else Decimal.read? cs

/--
The value of the options of a registered field. Absent options are null, and a text that denotes a
number is kept as that number.
-/
def FieldRow.optionsValue (row : FieldRow) : Except Cause Value :=
  match row.options with
  | none => .ok .null
  | some text =>
    match number? text with
    | some x => .ok (.float x)
    | none => readJson text

end Database

open Database

namespace Database

/-- The columns that the rows of the registered collections are read from. -/
def collectionColumns : List Column :=
  [⟨"collection", "VARCHAR(64)", false⟩, ⟨"singleton", "BOOLEAN", false⟩,
    ⟨"hidden", "BOOLEAN", false⟩, ⟨"note", "TEXT", true⟩]

def fieldColumns : List Column :=
  [⟨"id", "INTEGER", false⟩, ⟨"collection", "VARCHAR(64)", false⟩,
    ⟨"field", "VARCHAR(64)", false⟩, ⟨"special", "VARCHAR(64)", true⟩,
    ⟨"interface", "VARCHAR(64)", true⟩, ⟨"options", "JSON", true⟩, ⟨"note", "TEXT", true⟩,
    ⟨"sort", "INTEGER", true⟩, ⟨"hidden", "BOOLEAN", false⟩]

def relationColumns : List Column :=
  [⟨"id", "INTEGER", false⟩, ⟨"many_collection", "VARCHAR(64)", false⟩,
    ⟨"many_field", "VARCHAR(64)", false⟩, ⟨"one_collection", "VARCHAR(64)", true⟩,
    ⟨"one_field", "VARCHAR(64)", true⟩, ⟨"junction_field", "VARCHAR(64)", true⟩,
    ⟨"one_allowed_collections", "TEXT", true⟩]

end Database

/--
A database. Each of the system tables can be missing, and can have other columns than those that its
rows are read from.
-/
structure Database where
  tables : List Table := []
  collectionRows : Option (List CollectionRow) := some []
  fieldRows : Option (List FieldRow) := some []
  relationRows : Option (List RelationRow) := some []
  collectionsShape : Shape := ⟨collectionColumns, []⟩
  fieldsShape : Shape := ⟨fieldColumns, []⟩
  relationsShape : Shape := ⟨relationColumns, []⟩
deriving DecidableEq, Repr

namespace Database

def empty : Database where
  collectionRows := none
  fieldRows := none
  relationRows := none

def systemTables (db : Database) : List Table :=
  (if db.collectionRows.isSome then [db.collectionsShape.table "directus_collections"] else [])
    ++ (if db.fieldRows.isSome then [db.fieldsShape.table "directus_fields"] else [])
    ++ (if db.relationRows.isSome then [db.relationsShape.table "directus_relations"] else [])

/-- All tables, in the alphabetical order of their names. -/
def allTables (db : Database) : List Table :=
  (db.tables ++ db.systemTables).mergeSort fun a b => decide (a.name ≤ b.name)

/-- The rows of a system table, unless it is missing or lacks a column that they are read from. -/
def rowsOf {α : Type} (shape : Shape) (columns : List Column) :
    Option (List α) → Except Cause (List α)
  | some rows => if shape.hasColumns (columns.map (·.name)) then .ok rows else .error .database
  | none => .error .database

theorem rowsOf_eq_ok {α : Type} {shape : Shape} {columns : List Column} {table : Option (List α)}
    {rows : List α} : rowsOf shape columns table = .ok rows
      ↔ table = some rows ∧ shape.hasColumns (columns.map (·.name)) := by
  cases table with
  | none => exact iff_of_false nofun nofun
  | some found =>
    by_cases complete : shape.hasColumns (columns.map (·.name)) <;> simp [rowsOf, complete]

def readCollections (db : Database) : Except Cause (List CollectionRow) :=
  rowsOf db.collectionsShape collectionColumns db.collectionRows

/-- The registered fields in the order of their numbers; no options are read. -/
def fieldRowsById (db : Database) : Except Cause (List FieldRow) := do
  let rows ← rowsOf db.fieldsShape fieldColumns db.fieldRows
  return rows.mergeSort fun a b => decide (a.id ≤ b.id)

/-- Rows that are already in the order of their numbers are read as they are. -/
theorem fieldRowsById_eq_ok {db : Database} {rows : List FieldRow} (stored : db.fieldRows = some rows)
    (complete : db.fieldsShape.hasColumns (fieldColumns.map (·.name)))
    (ordered : rows.Pairwise fun a b => a.id ≤ b.id) : db.fieldRowsById = .ok rows := by
  have sorted : rows.mergeSort (fun a b => decide (a.id ≤ b.id)) = rows :=
    List.mergeSort_of_pairwise (ordered.imp decide_eq_true)
  rw [fieldRowsById, rowsOf_eq_ok.mpr ⟨stored, complete⟩]
  exact congrArg Except.ok sorted

/-- The registered fields in the order of their numbers. The options of all of them are read. -/
def readFields (db : Database) : Except Cause (List FieldRow) := do
  let rows ← db.fieldRowsById
  discard (rows.mapM FieldRow.optionsValue)
  return rows

/-- The registered relations in the order of their numbers. -/
def readRelations (db : Database) : Except Cause (List RelationRow) := do
  let rows ← rowsOf db.relationsShape relationColumns db.relationRows
  return rows.mergeSort fun a b => decide (a.id ≤ b.id)

end Database

end Typescribe
