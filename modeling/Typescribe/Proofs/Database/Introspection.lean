import Mathlib.Data.String.Basic
import Typescribe.Database.Introspection
import Typescribe.Proofs.Step

/-!
This module contains the data model that is read from a database as a function of the database: one
collection for each table, in the order of their names, and one relation for each registered one.
-/

namespace Typescribe.Database

variable {σ : Type} {db : Database} {includeSystem : Bool} {s t : Session σ} {schema : Schema}

/-- The collection of a table, under its name. -/
def tableEntry (rows : SystemRows) (table : Table) : Except Cause (String × Collection) := do
  let merged ← mergeFields table (rowsOfTable rows.fields table.name)
  return (table.name, collectionOf rows.collections table merged.fields)

theorem isPlain_logUseless (table : Table) (rows : List FieldRow) :
    Step.IsPlain (logUseless table rows : Step σ Unit) (.ok ()) := by
  unfold logUseless
  induction rows with
  | nil => exact .pure ()
  | cons row rows ih => exact (Step.IsPlain.write _).bind_ok ih

theorem isPlain_readTable (rows : SystemRows) (table : Table) :
    Step.IsPlain (readTable rows table : Step σ _) ((tableEntry rows table).mapError .foreign) := by
  unfold readTable tableEntry
  rw [mapError_bind]
  apply (Step.IsPlain.ofExcept _).bind
  intro merged _
  exact (isPlain_logUseless table merged.useless).bind_ok (.pure _)

def schemaOf (db : Database) (includeSystem : Bool) : Except Fault Schema := do
  let rows ← db.readRows.mapError unreadable
  let collections ← (db.tablesOf includeSystem).mapM fun table =>
    (tableEntry rows table).mapError .foreign
  return ⟨collections, rows.relations.map (relationOf (db.tablesOf includeSystem))⟩

theorem isPlain_introspect (db : Database) (includeSystem : Bool) :
    Step.IsPlain (introspect db includeSystem : Step σ Schema) (schemaOf db includeSystem) := by
  apply (Step.IsPlain.ofExcept _).bind
  intro rows _
  apply (Step.IsPlain.mapM (isPlain_readTable rows) _).bind
  intro collections _
  exact (Step.IsPlain.write _).bind_ok (.pure _)

theorem exists_yields_introspect (h : schemaOf db includeSystem = .ok schema) (s : Session σ) :
    ∃ t, Step.Yields (introspect db includeSystem) s schema t := by
  obtain ⟨records, plain⟩ := isPlain_introspect (σ := σ) db includeSystem
  exact ⟨_, (plain s).trans (by rw [h])⟩

theorem schemaOf_eq_ok : schemaOf db includeSystem = .ok schema
    ↔ ∃ rows, db.readRows = .ok rows
      ∧ (db.tablesOf includeSystem).mapM (tableEntry rows) = .ok schema.collections
      ∧ schema.relations = rows.relations.map (relationOf (db.tablesOf includeSystem)) := by
  obtain ⟨collections, relations⟩ := schema
  unfold schemaOf
  simp only [← mapError_mapM]
  constructor
  · intro h
    obtain ⟨rows, read, h⟩ := bind_eq_ok.mp h
    obtain ⟨entries, made, h⟩ := bind_eq_ok.mp h
    cases h
    exact ⟨rows, mapError_eq_ok.mp read, mapError_eq_ok.mp made, rfl⟩
  · rintro ⟨rows, read, made, rfl⟩
    exact bind_eq_ok.mpr ⟨rows, mapError_eq_ok.mpr read,
      bind_eq_ok.mpr ⟨collections, mapError_eq_ok.mpr made, rfl⟩⟩

theorem schemaOf_of_yields (h : Step.Yields (introspect db includeSystem) s schema t) :
    schemaOf db includeSystem = .ok schema :=
  (isPlain_introspect db includeSystem).of_yields h

theorem tableEntry_eq_ok {rows : SystemRows} {table : Table} {entry : String × Collection} :
    tableEntry rows table = .ok entry
      ↔ ∃ merged, mergeFields table (rowsOfTable rows.fields table.name) = .ok merged
        ∧ entry = (table.name, collectionOf rows.collections table merged.fields) := by
  unfold tableEntry
  rw [bind_eq_ok]
  apply exists_congr
  intro merged
  apply and_congr_right
  intro _
  constructor
  · intro h
    cases h
    rfl
  · rintro rfl
    rfl

theorem forall₂_collections (h : schemaOf db includeSystem = .ok schema) :
    List.Forall₂ (fun table entry => entry.1 = table.name ∧ entry.2.collection = table.name)
      (db.tablesOf includeSystem) schema.collections := by
  obtain ⟨rows, -, made, -⟩ := schemaOf_eq_ok.mp h
  apply (forall₂_of_mapM_eq_ok made).imp
  intro table _ made
  obtain ⟨merged, -, rfl⟩ := tableEntry_eq_ok.mp made
  exact ⟨rfl, rfl⟩

theorem pairwise_tablesOf (db : Database) (includeSystem : Bool) :
    (db.tablesOf includeSystem).Pairwise (·.name ≤ ·.name) := by
  have trans (a b c : Table) : decide (a.name ≤ b.name) → decide (b.name ≤ c.name)
      → decide (a.name ≤ c.name) := by
    simpa using le_trans
  have total (a b : Table) : decide (a.name ≤ b.name) || decide (b.name ≤ a.name) := by
    simpa using le_total a.name b.name
  have sorted := List.pairwise_mergeSort trans total (db.tables ++ db.systemTables)
  simp only [decide_eq_true_eq] at sorted
  exact sorted.filter _

theorem tablesOf_perm (db : Database) (includeSystem : Bool) :
    (db.tablesOf includeSystem).Perm
      ((db.tables ++ db.systemTables).filter fun table => includeSystem || !isSystemTable table) :=
  (List.mergeSort_perm _ _).filter _

theorem readRows_eq_ok {rows : SystemRows} : db.readRows = .ok rows
    ↔ db.readCollections = .ok rows.collections ∧ db.readFields = .ok rows.fields
      ∧ db.readRelations = .ok rows.relations := by
  constructor
  · intro h
    obtain ⟨collections, first, h⟩ := bind_eq_ok.mp h
    obtain ⟨fields, second, h⟩ := bind_eq_ok.mp h
    obtain ⟨relations, third, h⟩ := bind_eq_ok.mp h
    cases h
    exact ⟨first, second, third⟩
  · rintro ⟨first, second, third⟩
    rw [readRows, first, second, third]
    rfl

/-- The registered fields are those of the database, in the order of their numbers. -/
theorem exists_fieldRows_perm {rows : SystemRows} (h : db.readRows = .ok rows) :
    ∃ registered, db.fieldRows = some registered ∧ rows.fields.Perm registered := by
  obtain ⟨-, read, -⟩ := readRows_eq_ok.mp h
  generalize rows.fields = fields at read ⊢
  obtain ⟨byId, listed, read⟩ := bind_eq_ok.mp read
  obtain ⟨_, -, read⟩ := bind_eq_ok.mp read
  cases read
  obtain ⟨registered, found, listed⟩ := bind_eq_ok.mp listed
  cases listed
  exact ⟨registered, (rowsOf_eq_ok.mp found).1, List.mergeSort_perm _ _⟩

/-! ### Readable databases -/

/-- A declaration of a column says a type. -/
def isTyped (declaration : String) : Bool :=
  (ColumnType.ofDeclaration (ColumnDeclaration.ofString declaration).type).isOk

theorem exists_type {declaration : String} (h : isTyped declaration) : ∃ type,
    ColumnType.ofDeclaration (ColumnDeclaration.ofString declaration).type = .ok type := by
  unfold isTyped at h
  cases read : ColumnType.ofDeclaration (ColumnDeclaration.ofString declaration).type with
  | error => simp [read, Except.isOk, Except.toBool] at h
  | ok type => exact ⟨type, rfl⟩

def Table.isReadable (table : Table) : Bool :=
  table.columns.all fun column => isTyped column.declaration

theorem exists_columnFields {table : Table} (h : table.isReadable) (rows : List FieldRow) :
    ∃ fields, columnFields table rows = .ok fields := by
  have each : ∀ column ∈ table.columns, ∃ entry,
      (do return (column.name, ← columnField table.name rows column)) = Except.ok entry := by
    intro column hc
    obtain ⟨type, read⟩ := exists_type (List.all_eq_true.mp h column hc)
    exact ⟨_, bind_eq_ok.mpr ⟨_, bind_eq_ok.mpr ⟨type, read, rfl⟩, rfl⟩⟩
  obtain ⟨entries, made⟩ := exists_mapM_eq_ok each
  exact ⟨_, bind_eq_ok.mpr ⟨entries, made, rfl⟩⟩

/-- A database is read if its system tables are there and its columns are declared with types. -/
theorem exists_schemaOf {rows : SystemRows} (read : db.readRows = .ok rows)
    (readable : ∀ table ∈ db.tables ++ db.systemTables, table.isReadable)
    (includeSystem : Bool) : ∃ schema, schemaOf db includeSystem = .ok schema := by
  have each : ∀ table ∈ db.tablesOf includeSystem, ∃ entry, tableEntry rows table = .ok entry := by
    intro table ht
    have listed := (List.mem_filter.mp ((tablesOf_perm db includeSystem).subset ht)).1
    obtain ⟨fields, made⟩ := exists_columnFields (readable table listed)
      (rowsOfTable rows.fields table.name)
    exact ⟨_, tableEntry_eq_ok.mpr ⟨_, bind_eq_ok.mpr ⟨fields, made, rfl⟩, rfl⟩⟩
  obtain ⟨collections, made⟩ := exists_mapM_eq_ok each
  exact ⟨⟨collections, _⟩, schemaOf_eq_ok.mpr ⟨rows, read, made, rfl⟩⟩

end Typescribe.Database
