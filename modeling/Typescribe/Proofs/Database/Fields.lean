import Mathlib.Data.List.Permutation
import Mathlib.Data.Prod.Lex
import Typescribe.Proofs.Database.Introspection
import Typescribe.Proofs.Ordered
import Typescribe.Proofs.Snapshot.Special

/-!
This module contains the fields of a table: first its columns, and then the registered fields without
a column, each at the place of its first row with a flag of an alias.
-/

namespace Typescribe.Database

variable {σ : Type} {db : Database} {includeSystem : Bool} {s t : Session σ} {schema : Schema}
  {table : Table} {row other : FieldRow} {rows : List FieldRow} {known : List String}

/-! ### The order of registered fields -/

/-- Where a row stands: rows with a sort value come first, by that value and then by number. -/
def FieldRow.rank (row : FieldRow) : Bool ×ₗ Int ×ₗ Int :=
  toLex (row.sort.isNone, toLex (row.sort.getD 0, row.id))

theorem precedes_iff : row.precedes other ↔ row.rank ≤ other.rank := by
  unfold FieldRow.precedes FieldRow.rank
  rw [Prod.Lex.toLex_le_toLex, Prod.Lex.toLex_le_toLex]
  rcases row.sort with _ | m <;> rcases other.sort with _ | n <;> simp

theorem mem_rowsOfTable {name : String} :
    row ∈ rowsOfTable rows name ↔ row ∈ rows ∧ row.collection = name := by
  simp [rowsOfTable]

theorem pairwise_rowsOfTable (rows : List FieldRow) (name : String) :
    (rowsOfTable rows name).Pairwise (·.rank ≤ ·.rank) := by
  have trans (a b c : FieldRow) : a.precedes b → b.precedes c → a.precedes c := by
    rw [precedes_iff, precedes_iff, precedes_iff]
    exact le_trans
  have total (a b : FieldRow) : a.precedes b || b.precedes a := by
    rw [Bool.or_eq_true, precedes_iff, precedes_iff]
    exact le_total _ _
  have sorted := List.pairwise_mergeSort trans total rows
  simp only [precedes_iff] at sorted
  exact sorted.filter _

/-! ### Rows without a column -/

theorem isAlias_iff : row.isAlias ↔ ∃ flag ∈ row.flags, flag ∈ Snapshot.aliasFlags := by
  simp [FieldRow.isAlias, Snapshot.isAliasField_iff]

/-- The rows that add a field: aliases whose name is neither known nor that of an earlier one. -/
def firstAliases (known : List String) : List FieldRow → List FieldRow
  | [] => []
  | row :: rows =>
    if row.isAlias ∧ row.field ∉ known then row :: firstAliases (known ++ [row.field]) rows
    else firstAliases known rows

/-- The rows without a flag leave the fields as they are, so they hide no later alias. -/
theorem fields_foldl_add (name : String) (rows : List FieldRow) (merged : Merged) :
    (rows.foldl (Merged.add name) merged).fields
      = merged.fields ++ (firstAliases (merged.fields.map (·.1)) rows).map fun row =>
          (row.field, aliasField name row) := by
  induction rows generalizing merged with
  | nil => rw [firstAliases, List.map_nil, List.append_nil, List.foldl_nil]
  | cons row rows ih =>
    rw [List.foldl_cons, ih, firstAliases]
    unfold Merged.add
    simp only [Ordered.isSome_get?_iff]
    split
    · next old => rw [if_neg fun new => new.2 old]
    · next fresh =>
      split
      · next flagged =>
        rw [if_pos ⟨flagged, fresh⟩, List.map_append, List.map_singleton, List.map_cons,
          List.append_assoc, List.singleton_append]
      · next plain => rw [if_neg fun new => plain new.1]

theorem sublist_firstAliases (known : List String) (rows : List FieldRow) :
    (firstAliases known rows).Sublist rows := by
  induction rows generalizing known with
  | nil => exact .slnil
  | cons row rows ih =>
    unfold firstAliases
    split
    · exact (ih _).cons_cons row
    · exact (ih known).cons row

theorem of_mem_firstAliases (h : row ∈ firstAliases known rows) :
    row.isAlias ∧ row.field ∉ known := by
  induction rows generalizing known with
  | nil => cases h
  | cons first rows ih =>
    unfold firstAliases at h
    split at h
    · next new =>
      cases List.mem_cons.mp h with
      | inl same => exact same ▸ new
      | inr h => exact ⟨(ih h).1, fun old => (ih h).2 (List.mem_append_left _ old)⟩
    · exact ih h

theorem nodup_firstAliases (known : List String) (rows : List FieldRow) :
    ((firstAliases known rows).map (·.field)).Nodup := by
  induction rows generalizing known with
  | nil => exact .nil
  | cons row rows ih =>
    unfold firstAliases
    split
    · rw [List.map_cons, List.nodup_cons]
      refine ⟨fun again => ?_, ih _⟩
      obtain ⟨later, hl, same⟩ := List.mem_map.mp again
      exact (of_mem_firstAliases hl).2 (by simp [same])
    · exact ih known

theorem field_mem_firstAliases (flagged : row.isAlias) (unknown : row.field ∉ known)
    (h : row ∈ rows) : row.field ∈ (firstAliases known rows).map (·.field) := by
  induction rows generalizing known with
  | nil => cases h
  | cons first rows ih =>
    unfold firstAliases
    split
    · rw [List.map_cons, List.mem_cons]
      by_cases same : row.field = first.field
      · exact .inl same
      · have later : row ∈ rows := by
          cases List.mem_cons.mp h with
          | inl this => exact absurd (congrArg FieldRow.field this) same
          | inr later => exact later
        exact .inr (ih (by simp [unknown, same]) later)
    · next old =>
      cases List.mem_cons.mp h with
      | inl this => exact absurd ⟨this ▸ flagged, this ▸ unknown⟩ old
      | inr later => exact ih unknown later

/-- In an ordered list a row that adds a field comes before all other aliases of its name. -/
theorem rank_le_of_mem_firstAliases (ordered : rows.Pairwise (·.rank ≤ ·.rank))
    (h : row ∈ firstAliases known rows) (ho : other ∈ rows) (flagged : other.isAlias)
    (same : other.field = row.field) : row.rank ≤ other.rank := by
  induction rows generalizing known with
  | nil => cases h
  | cons first rows ih =>
    obtain ⟨least, ordered⟩ := List.pairwise_cons.mp ordered
    unfold firstAliases at h
    split at h
    · cases List.mem_cons.mp h with
      | inl this =>
        subst this
        cases List.mem_cons.mp ho with
        | inl this => exact this ▸ le_refl _
        | inr later => exact least other later
      | inr h =>
        have new := (of_mem_firstAliases h).2
        cases List.mem_cons.mp ho with
        | inl this => exact absurd (by simp [← same, this]) new
        | inr later => exact ih ordered h later
    · next old =>
      cases List.mem_cons.mp ho with
      | inl this =>
        have new := (of_mem_firstAliases h).2
        exact absurd ⟨this ▸ flagged, this ▸ same ▸ new⟩ old
      | inr later => exact ih ordered h later

/-! ### The fields of a table -/

theorem of_columnField {name : String} {column : Column} {field : Field}
    (h : columnField name rows column = .ok field) :
    field.collection = name ∧ field.field = column.name ∧ field.isAlias = false := by
  obtain ⟨type, -, h⟩ := bind_eq_ok.mp h
  cases h
  exact ⟨rfl, rfl, rfl⟩

/-- An entry is the field of a column. -/
structure IsColumn (table : Table) (column : Column) (entry : String × Field) : Prop where
  key : entry.1 = column.name
  field : entry.2.field = column.name
  collection : entry.2.collection = table.name
  notAlias : entry.2.isAlias = false

theorem isColumn_of_columnFields {fields : List (String × Field)}
    (distinct : (table.columns.map (·.name)).Nodup) (h : columnFields table rows = .ok fields) :
    List.Forall₂ (IsColumn table) table.columns fields := by
  obtain ⟨entries, made, h⟩ := bind_eq_ok.mp h
  cases h
  have each : List.Forall₂ (IsColumn table) table.columns entries := by
    apply (forall₂_of_mapM_eq_ok made).imp
    intro column entry h
    obtain ⟨field, made, h⟩ := bind_eq_ok.mp h
    cases h
    obtain ⟨collection, named, plain⟩ := of_columnField made
    exact ⟨rfl, named, collection, plain⟩
  have keys := map_eq_map_of_forall₂ each fun _ _ h => h.key.symm
  rwa [Ordered.ofList_of_nodup (keys ▸ distinct)]

/-- A registered field of a table with a flag of an alias and without a column. -/
structure IsAliasRow (registered : List FieldRow) (table : Table) (row : FieldRow) : Prop where
  registered : row ∈ registered
  collection : row.collection = table.name
  flagged : ∃ flag ∈ row.flags, flag ∈ Snapshot.aliasFlags
  noColumn : row.field ∉ table.columns.map (·.name)

/-- An entry is the field of a row without a column. -/
structure IsAliasOf (table : Table) (row : FieldRow) (entry : String × Field) : Prop where
  key : entry.1 = row.field
  field : entry.2.field = row.field
  collection : entry.2.collection = table.name
  isAlias : entry.2.isAlias = true
  nullable : entry.2.nullable = true

/--
The entries of a table: those of its columns in their order, and behind them one for each name of its
rows without a column, in the order of the first row of each name.
-/
structure Rebuilds (registered : List FieldRow) (table : Table)
    (physical aliases : List (String × Field)) (firsts : List FieldRow) : Prop where
  columns : List.Forall₂ (IsColumn table) table.columns physical
  aliasRows : List.Forall₂ (IsAliasOf table) firsts aliases
  listed : ∀ row ∈ firsts, IsAliasRow registered table row
  complete : ∀ row, IsAliasRow registered table row → row.field ∈ aliases.map (·.1)
  first : ∀ row ∈ firsts, ∀ other, IsAliasRow registered table other → other.field = row.field →
    row.rank ≤ other.rank
  ordered : firsts.Pairwise (·.rank ≤ ·.rank)
  once : ((physical ++ aliases).map (·.1)).Nodup

theorem rebuilds_of_mergeFields {merged : Merged} {registered : List FieldRow}
    (distinct : (table.columns.map (·.name)).Nodup) (perm : rows.Perm registered)
    (h : mergeFields table (rowsOfTable rows table.name) = .ok merged) :
    ∃ columns aliases firsts, merged.fields = columns ++ aliases
      ∧ Rebuilds registered table columns aliases firsts := by
  obtain ⟨columns, made, h⟩ := bind_eq_ok.mp h
  cases h
  rw [fields_foldl_add]
  have each := isColumn_of_columnFields distinct made
  have keys := map_eq_map_of_forall₂ each fun _ _ h => h.key.symm
  rw [← keys]
  let known := table.columns.map (·.name)
  let firsts := firstAliases known (rowsOfTable rows table.name)
  have isRow {row : FieldRow} : IsAliasRow registered table row
      ↔ row ∈ rowsOfTable rows table.name ∧ row.isAlias ∧ row.field ∉ known := by
    rw [mem_rowsOfTable, perm.mem_iff, isAlias_iff]
    constructor
    · rintro ⟨registered, collection, flagged, noColumn⟩
      exact ⟨⟨registered, collection⟩, flagged, noColumn⟩
    · rintro ⟨⟨registered, collection⟩, flagged, noColumn⟩
      exact ⟨registered, collection, flagged, noColumn⟩
  have ordered := pairwise_rowsOfTable rows table.name
  have sublist := sublist_firstAliases known (rowsOfTable rows table.name)
  refine ⟨columns, _, firsts, rfl, each, ?_, ?_, ?_, ?_, ordered.sublist sublist, ?_⟩
  · rw [List.forall₂_map_right_iff, List.forall₂_same]
    exact fun row _ => ⟨rfl, rfl, rfl, rfl, rfl⟩
  · exact fun row hr => isRow.mpr ⟨sublist.subset hr, of_mem_firstAliases hr⟩
  · intro row hr
    obtain ⟨mem, flagged, noColumn⟩ := isRow.mp hr
    rw [List.map_map]
    exact field_mem_firstAliases flagged noColumn mem
  · intro row hr other ho same
    obtain ⟨mem, flagged, -⟩ := isRow.mp ho
    exact rank_le_of_mem_firstAliases ordered hr mem flagged same
  · rw [List.map_append, ← keys, List.map_map, List.nodup_append]
    refine ⟨distinct, nodup_firstAliases known _, ?_⟩
    rintro name hn _ ha rfl
    obtain ⟨row, hr, rfl⟩ := List.mem_map.mp ha
    exact (of_mem_firstAliases hr).2 hn

/-- An entry is the collection of a table, with the fields of the table. -/
structure IsRebuilt (registered : List FieldRow) (table : Table) (entry : String × Collection) :
    Prop where
  key : entry.1 = table.name
  collection : entry.2.collection = table.name
  fields : ∃ physical aliases firsts, entry.2.fields = physical ++ aliases
    ∧ Rebuilds registered table physical aliases firsts

/--
Introspection rebuilds the collections in the order of the names of their tables, and the fields of
each of them from the columns of its table and the rows that are registered for it.
-/
theorem rebuilds_of_introspect
    (distinct : ∀ table ∈ db.tables ++ db.systemTables, (table.columns.map (·.name)).Nodup)
    (h : Step.Yields (introspect db includeSystem) s schema t) :
    ∃ registered tables, db.fieldRows = some registered
      ∧ tables.Perm ((db.tables ++ db.systemTables).filter fun table =>
          includeSystem || !isSystemTable table)
      ∧ List.Forall₂ (IsRebuilt registered) tables schema.collections
      ∧ (schema.collections.map (·.1)).Pairwise (· ≤ ·) := by
  obtain ⟨rows, read, made, -⟩ := schemaOf_eq_ok.mp (schemaOf_of_yields h)
  obtain ⟨registered, there, perm⟩ := exists_fieldRows_perm read
  have listed := tablesOf_perm db includeSystem
  have nodup : ∀ table ∈ db.tablesOf includeSystem, (table.columns.map (·.name)).Nodup := by
    intro table ht
    exact distinct table (List.mem_filter.mp (listed.subset ht)).1
  have each : List.Forall₂ (IsRebuilt registered) (db.tablesOf includeSystem)
      schema.collections := by
    apply ((List.forall₂_and_left _ _).mpr ⟨nodup, forall₂_of_mapM_eq_ok made⟩).imp
    rintro table _ ⟨columns, built⟩
    obtain ⟨merged, merging, rfl⟩ := tableEntry_eq_ok.mp built
    exact ⟨rfl, rfl, rebuilds_of_mergeFields columns perm merging⟩
  refine ⟨registered, db.tablesOf includeSystem, there, listed, each, ?_⟩
  rw [← map_eq_map_of_forall₂ each fun _ _ same => same.key.symm, List.pairwise_map]
  exact pairwise_tablesOf db includeSystem

def taggedTable : Table where
  name := "posts"
  columns := [⟨"id", "INTEGER", false⟩]

def placedRow : FieldRow where
  id := 2
  collection := "posts"
  field := "meta"
  special := some "group"
  sort := some 1

def unflaggedRow : FieldRow where
  id := 1
  collection := "posts"
  field := "tags"

/-- An alias whose name a row before it has, without a flag. -/
def laterRow : FieldRow where
  id := 3
  collection := "posts"
  field := "tags"
  special := some "m2m"

/-- A database whose registered collections have a column more. -/
def taggedDatabase : Database where
  tables := [taggedTable]
  fieldRows := some [laterRow, placedRow, unflaggedRow]
  collectionsShape := ⟨collectionColumns ++ [⟨"icon", "VARCHAR(30)", true⟩], []⟩

def taggedCollection : Collection where
  collection := "posts"
  fields :=
    [("id",
       { collection := "posts", field := "id", typeTag := "integer", nullable := false
         columnType := some "integer" }),
     ("meta", { collection := "posts", field := "meta", typeTag := "alias", isAlias := true }),
     ("tags", { collection := "posts", field := "tags", typeTag := "alias", isAlias := true })]

theorem tablesOf_taggedDatabase : taggedDatabase.tablesOf false = [taggedTable] :=
  List.perm_singleton.mp (tablesOf_perm taggedDatabase false)

theorem mergeFields_taggedTable : mergeFields taggedTable [placedRow, unflaggedRow, laterRow]
    = .ok ⟨taggedCollection.fields, [unflaggedRow]⟩ := rfl

theorem schemaOf_taggedDatabase :
    schemaOf taggedDatabase false = .ok ⟨[("posts", taggedCollection)], []⟩ := by
  have byId : [laterRow, placedRow, unflaggedRow].mergeSort (fun a b => decide (a.id ≤ b.id))
      = [unflaggedRow, placedRow, laterRow] := by
    simp [List.mergeSort, List.MergeSort.Internal.splitInTwo, unflaggedRow, placedRow, laterRow]
  have fields : taggedDatabase.fieldRowsById = .ok [unflaggedRow, placedRow, laterRow] :=
    bind_eq_ok.mpr ⟨_, rowsOf_eq_ok.mpr ⟨rfl, by decide⟩, congrArg Except.ok byId⟩
  have relations : taggedDatabase.readRelations = .ok [] :=
    bind_eq_ok.mpr ⟨[], rowsOf_eq_ok.mpr ⟨rfl, by decide⟩, congrArg Except.ok List.mergeSort_nil⟩
  have read : taggedDatabase.readRows = .ok ⟨[], [unflaggedRow, placedRow, laterRow], []⟩ :=
    readRows_eq_ok.mpr ⟨rowsOf_eq_ok.mpr ⟨rfl, by decide⟩,
      bind_eq_ok.mpr ⟨_, fields, rfl⟩, relations⟩
  have rows : rowsOfTable [unflaggedRow, placedRow, laterRow] "posts"
      = [placedRow, unflaggedRow, laterRow] := by
    simp [rowsOfTable, List.mergeSort, List.MergeSort.Internal.splitInTwo, List.merge,
      FieldRow.precedes, unflaggedRow, placedRow, laterRow]
  have made : tableEntry ⟨[], [unflaggedRow, placedRow, laterRow], []⟩ taggedTable
      = .ok ("posts", taggedCollection) :=
    tableEntry_eq_ok.mpr ⟨_, (congrArg _ rows).trans mergeFields_taggedTable, rfl⟩
  refine schemaOf_eq_ok.mpr ⟨_, read, ?_, rfl⟩
  rw [tablesOf_taggedDatabase, List.mapM_cons, made]
  rfl

theorem rebuilds_taggedDatabase :
    ∃ t, Step.Yields (introspect taggedDatabase false) (⟨(), []⟩ : Session Unit)
        ⟨[("posts", taggedCollection)], []⟩ t
      ∧ List.Forall₂ (IsRebuilt [laterRow, placedRow, unflaggedRow]) [taggedTable]
          [("posts", taggedCollection)] := by
  obtain ⟨t, yields⟩ := exists_yields_introspect schemaOf_taggedDatabase (⟨(), []⟩ : Session Unit)
  have distinct : ∀ table ∈ taggedDatabase.tables ++ taggedDatabase.systemTables,
      (table.columns.map (·.name)).Nodup := by decide
  obtain ⟨registered, tables, there, listed, each, -⟩ := rebuilds_of_introspect distinct yields
  cases there
  have only : tables = [taggedTable] := List.perm_singleton.mp listed
  exact ⟨t, yields, only ▸ each⟩

end Typescribe.Database
