import Typescribe.Proofs.Database.Introspection
import Typescribe.Proofs.Declaration.WithoutSystem

/-!
This module contains introspection without system tables: it leaves out their collections and the
key columns of the relations that are declared on them, and nothing else.
-/

namespace Typescribe.Database

open Declaration

variable {σ : Type} {db : Database} {s t : Session σ} {schema full : Schema}

theorem tablesOf_false (db : Database) :
    db.tablesOf false = (db.tablesOf true).filter fun table => !isSystemName table.name := by
  unfold tablesOf
  rw [List.filter_filter]
  apply List.filter_congr
  intro table _
  rw [Bool.true_or, Bool.and_true, Bool.false_or]
  rfl

/-- Without the system tables, the keys of these are not found, and those of others still are. -/
theorem foreignKeyColumn?_filter (tables : List Table) (name column : String) :
    foreignKeyColumn? (tables.filter fun table => !isSystemName table.name) name column
      = if isSystemName name then none else foreignKeyColumn? tables name column := by
  have found : (tables.filter fun table => !isSystemName table.name).find? (·.name = name)
      = if isSystemName name then none else tables.find? (·.name = name) := by
    induction tables with
    | nil => simp
    | cons table tables ih =>
      by_cases same : table.name = name
      · subst same
        by_cases system : isSystemName table.name <;> simp [system, ih]
      · by_cases system : isSystemName table.name <;> simp [system, same, ih]
  unfold foreignKeyColumn?
  rw [found]
  by_cases system : isSystemName name
  · rw [if_pos system, if_pos system]
  · rw [if_neg system, if_neg system]

theorem relationOf_filter (tables : List Table) (row : RelationRow) :
    relationOf (tables.filter fun table => !isSystemName table.name) row
      = (relationOf tables row).withoutSystemKey := by
  unfold relationOf Relation.withoutSystemKey
  rw [foreignKeyColumn?_filter]
  split <;> rfl

theorem schemaOf_false (h : schemaOf db true = .ok full) :
    schemaOf db false = .ok full.withoutSystem := by
  obtain ⟨rows, read, made, relations⟩ := schemaOf_eq_ok.mp h
  refine schemaOf_eq_ok.mpr ⟨rows, read, ?_, ?_⟩
  · rw [tablesOf_false]
    apply mapM_filter_eq_ok made
    intro table entry h
    obtain ⟨merged, -, rfl⟩ := tableEntry_eq_ok.mp h
    rfl
  · rw [tablesOf_false, Schema.withoutSystem, relations, List.map_map]
    apply List.map_congr_left
    intro row _
    exact (relationOf_filter _ row).symm

/--
Without its system tables, a database has the same collections and relations otherwise, and the
interfaces of collections without a link to a system collection stay the same.
-/
theorem introspect_withoutSystem (h : Step.Yields (introspect db true) s full t) (u : Session σ) :
    ∃ part v, Step.Yields (introspect db false) u part v
      ∧ part.collections = full.collections.filter (fun entry => !isSystemName entry.1)
      ∧ part.relations = full.relations.map (fun relation =>
          if isSystemName relation.collection then { relation with foreignKeyColumn := none }
          else relation)
      ∧ ∀ entry ∈ part.collections, entry.2.collection = entry.1
        ∧ (StandsAlone full entry.2 → ∀ {τ : Type} (config : Config) (choices : ChoiceSource τ),
            renderInterface config part choices entry.2
              = renderInterface config full choices entry.2) := by
  have made := schemaOf_of_yields h
  obtain ⟨v, yields⟩ := exists_yields_introspect (schemaOf_false made) u
  refine ⟨full.withoutSystem, v, yields, rfl, rfl, ?_⟩
  intro entry he
  obtain ⟨he, user⟩ := List.mem_filter.mp he
  obtain ⟨table, -, key, name⟩ := exists_of_mem_right (forall₂_collections made) he
  have named : entry.2.collection = entry.1 := name.trans key.symm
  refine ⟨named, fun alone τ config choices => ?_⟩
  exact renderInterface_withoutSystem config choices (by simpa [named] using user) alone

def usersTable : Table where
  name := "directus_users"
  columns := [⟨"id", "INTEGER", false⟩]

def articlesTable : Table where
  name := "articles"
  columns := [⟨"author", "INTEGER", true⟩]
  foreignKeys := [⟨["author"], ["id"]⟩]

def topicsTable : Table where
  name := "topics"
  columns := [⟨"id", "INTEGER", false⟩]

def authorRow : RelationRow where
  id := 1
  manyCollection := "articles"
  manyField := "author"
  oneCollection := some "directus_users"
  oneField := some "articles"

/-- Articles have an author, and topics have no link to a system collection. -/
def authoredDatabase : Database where
  tables := [usersTable, articlesTable, topicsTable]
  relationRows := some [authorRow]

theorem readRows_authored : authoredDatabase.readRows = .ok ⟨[], [], [authorRow]⟩ := by
  refine readRows_eq_ok.mpr ⟨rowsOf_eq_ok.mpr ⟨rfl, by decide⟩, ?fields, ?relations⟩
  case fields => exact bind_eq_ok.mpr ⟨[], fieldRowsById_eq_ok rfl (by decide) .nil, rfl⟩
  case relations =>
    exact bind_eq_ok.mpr ⟨_, rowsOf_eq_ok.mpr ⟨rfl, by decide⟩,
      congrArg Except.ok (List.mergeSort_singleton authorRow)⟩

theorem standsAlone_of_authored {collection : Collection}
    (h : schemaOf authoredDatabase true = .ok full) (other : collection.collection = "topics") :
    StandsAlone full collection := by
  obtain ⟨rows, read, -, relations⟩ := schemaOf_eq_ok.mp h
  cases readRows_authored.symm.trans read
  intro entry _ id link
  cases link with
  | forward _ found =>
    rw [Schema.relationFor?, relations, other] at found
    simp [relationOf, authorRow] at found
  | reverse _ found =>
    rw [Schema.reverseRelationFor?, relations, other] at found
    simp [relationOf, authorRow] at found

theorem introspect_authored :
    ∃ full t part v, Step.Yields (introspect authoredDatabase true) (⟨(), []⟩ : Session Unit) full t
      ∧ Step.Yields (introspect authoredDatabase false) (⟨(), []⟩ : Session Unit) part v
      ∧ part.collections = full.collections.filter (fun entry => !isSystemName entry.1)
      ∧ ∃ entry ∈ part.collections, entry.1 = "topics"
        ∧ ∀ {τ : Type} (config : Config) (choices : ChoiceSource τ),
            renderInterface config part choices entry.2
              = renderInterface config full choices entry.2 := by
  have declared : ∀ table ∈ authoredDatabase.tables ++ authoredDatabase.systemTables,
      ∀ column ∈ table.columns,
        column.declaration ∈ ["VARCHAR(64)", "BOOLEAN", "TEXT", "INTEGER", "JSON"] := by decide
  have typed : ∀ declaration ∈ ["VARCHAR(64)", "BOOLEAN", "TEXT", "INTEGER", "JSON"],
      isTyped declaration := by decide +kernel
  have readable : ∀ table ∈ authoredDatabase.tables ++ authoredDatabase.systemTables,
      table.isReadable := fun table ht =>
    List.all_eq_true.mpr fun column hc => typed _ (declared table ht column hc)
  obtain ⟨full, made⟩ := exists_schemaOf readRows_authored readable true
  obtain ⟨t, yields⟩ := exists_yields_introspect made (⟨(), []⟩ : Session Unit)
  obtain ⟨part, v, left, collections, -, same⟩ := introspect_withoutSystem yields ⟨(), []⟩
  have listed : topicsTable ∈ authoredDatabase.tablesOf true :=
    (tablesOf_perm authoredDatabase true).symm.subset (by decide)
  obtain ⟨entry, he, key, name⟩ := exists_of_mem_left (forall₂_collections made) listed
  have here : entry ∈ part.collections := by
    rw [collections]
    exact List.mem_filter.mpr ⟨he, by rw [key]; decide⟩
  exact ⟨full, t, part, v, yields, left, collections, entry, here, key,
    (same entry here).2 (standsAlone_of_authored made name)⟩

end Typescribe.Database
