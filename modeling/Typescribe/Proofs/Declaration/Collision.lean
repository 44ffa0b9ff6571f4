import Mathlib.Data.List.Nodup
import Typescribe.Declaration.Collision
import Typescribe.Proofs.Ordered

/-!
This module contains what a passed check for collisions says: no two of the declared names are the
same but for their letter case.
-/

namespace Typescribe.Declaration

/-- The owners of the names that fold to the given one. -/
def ownersOf (entries : List (String × String)) (key : String) : List String :=
  (entries.filter fun entry => foldCase entry.1 = key).map (·.2)

/-- The group of the names that fold to the given one. -/
def groupOf? (entries : List (String × String)) (key : String) : Option NameGroup :=
  (entries.find? fun entry => foldCase entry.1 = key).map fun first =>
    ⟨first.1, ownersOf entries key⟩

theorem foldCase_of_groupOf? {entries : List (String × String)} {key : String} {group : NameGroup}
    (h : groupOf? entries key = some group) : foldCase group.name = key := by
  obtain ⟨first, found, rfl⟩ := Option.map_eq_some_iff.mp h
  simpa using List.find?_some found

theorem ownersOf_eq_nil {entries : List (String × String)} {key : String}
    (h : entries.find? (fun entry => foldCase entry.1 = key) = none) :
    ownersOf entries key = [] := by
  rw [ownersOf, List.map_eq_nil_iff, List.filter_eq_nil_iff]
  exact List.find?_eq_none.mp h

theorem ownersOf_concat (entries : List (String × String)) (entry : String × String)
    (key : String) :
    ownersOf (entries ++ [entry]) key
      = if foldCase entry.1 = key then ownersOf entries key ++ [entry.2]
        else ownersOf entries key := by
  unfold ownersOf
  rw [List.filter_append, List.map_append]
  by_cases same : foldCase entry.1 = key
  · simp [same]
  · simp [same]

/-- What the table of names holds, after all of them were added one by one. -/
theorem get?_foldl_addName (entries : List (String × String)) (key : String) :
    Ordered.get? key (entries.foldl addName []) = groupOf? entries key := by
  induction entries using List.reverseRecOn generalizing key with
  | nil => rfl
  | append_singleton entries entry ih =>
    rw [List.foldl_append, List.foldl_cons, List.foldl_nil, addName, ih]
    unfold groupOf?
    rw [List.find?_append, ownersOf_concat, List.find?_singleton]
    by_cases same : foldCase entry.1 = key
    · rw [same]
      cases found : entries.find? fun entry => foldCase entry.1 = key with
      | none => simp [Ordered.get?_put, ownersOf_eq_nil found]
      | some first => simp [Ordered.get?_put]
    · have other := ih key
      unfold groupOf? at other
      cases entries.find? fun other => foldCase other.1 = foldCase entry.1 with
      | none => simp [Ordered.get?_put, same, other]
      | some first => simp [Ordered.get?_put, same, other]

theorem nodup_foldl_addName (entries : List (String × String)) :
    ((entries.foldl addName []).map (·.1)).Nodup := by
  induction entries using List.reverseRecOn with
  | nil => exact .nil
  | append_singleton entries entry ih =>
    rw [List.foldl_append, List.foldl_cons, List.foldl_nil, addName]
    split <;> exact Ordered.nodup_put ih _ _

theorem mem_nameGroups {layout : Layout} {ids : List String} {group : NameGroup} :
    group ∈ nameGroups layout ids
      ↔ groupOf? (declaredNames layout ids) (foldCase group.name) = some group := by
  rw [nameGroups, List.mem_map]
  constructor
  · rintro ⟨⟨key, _⟩, listed, rfl⟩
    have found := Ordered.get?_of_mem (nodup_foldl_addName (declaredNames layout ids)) listed
    rw [get?_foldl_addName] at found
    rw [foldCase_of_groupOf? found]
    exact found
  · intro found
    rw [← get?_foldl_addName] at found
    exact ⟨_, Ordered.mem_of_get?_eq_some found, rfl⟩

/-- Groups differ in their names, and not in letter case alone. -/
theorem nodup_nameGroups (layout : Layout) (ids : List String) :
    ((nameGroups layout ids).map fun group => foldCase group.name).Nodup := by
  have keys : (nameGroups layout ids).map (fun group => foldCase group.name)
      = ((declaredNames layout ids).foldl addName []).map (·.1) := by
    rw [nameGroups, List.map_map]
    apply List.map_congr_left
    intro entry listed
    have found := Ordered.get?_of_mem (nodup_foldl_addName (declaredNames layout ids)) listed
    rw [get?_foldl_addName] at found
    exact foldCase_of_groupOf? found
  rw [keys]
  exact nodup_foldl_addName _

/-- The groups with several owners. No two of them have one name, so that none is lost. -/
theorem collisions_perm (layout : Layout) (ids : List String) :
    (collisions layout ids).Perm
      (((nameGroups layout ids).filter fun group => 1 < group.owners.length).map fun group =>
        (group.name, group.owners.mergeSort (· ≤ ·))) := by
  have kept : ((nameGroups layout ids).filter fun group => 1 < group.owners.length).Sublist
      (nameGroups layout ids) := List.filter_sublist
  have names : (((nameGroups layout ids).filter fun group => 1 < group.owners.length).map
      fun group => (group.name, group.owners)).map (·.1) |>.Nodup := by
    apply List.Nodup.of_map foldCase
    rw [List.map_map, List.map_map]
    exact (nodup_nameGroups layout ids).sublist (kept.map _)
  unfold collisions
  simp only
  rw [Ordered.ofList_of_nodup names, List.map_map]
  exact List.mergeSort_perm _ _

theorem length_ownersOf (entries : List (String × String)) (key : String) :
    (ownersOf entries key).length = (entries.map fun entry => foldCase entry.1).count key := by
  rw [ownersOf, List.length_map, ← List.countP_eq_length_filter, List.count, List.countP_map]
  rfl

theorem collisions_eq_nil_iff {layout : Layout} {ids : List String} :
    collisions layout ids = [] ↔ ∀ group ∈ nameGroups layout ids, group.owners.length ≤ 1 := by
  rw [← List.length_eq_zero_iff, (collisions_perm layout ids).length_eq, List.length_map,
    List.length_eq_zero_iff, List.filter_eq_nil_iff]
  simp only [decide_eq_true_eq, Nat.not_lt]

theorem checkCollisions_eq_ok {layout : Layout} {schema : Schema} :
    checkCollisions layout schema = .ok ()
      ↔ collisions layout (schema.collections.map (·.1)) = [] := by
  unfold checkCollisions
  simp only
  cases collisions layout (schema.collections.map (·.1)) <;> simp

theorem exists_of_checkCollisions_eq_error {layout : Layout} {schema : Schema} {fault : Fault}
    (h : checkCollisions layout schema = .error fault) : ∃ found, fault = .collision found := by
  unfold checkCollisions at h
  simp only at h
  split at h
  · cases h
  · cases h
    exact ⟨_, rfl⟩

/-- Names collide just if two of them are the same but for their letter case. -/
theorem collisions_eq_nil_iff_nodup {layout : Layout} {ids : List String} :
    collisions layout ids = []
      ↔ ((declaredNames layout ids).map fun entry => foldCase entry.1).Nodup := by
  rw [collisions_eq_nil_iff, List.nodup_iff_count_le_one]
  constructor
  · intro single key
    -- A name has as many owners as it has declarations, and a group if it has any.
    rw [← length_ownersOf]
    cases found : (declaredNames layout ids).find? fun entry => foldCase entry.1 = key with
    | none => simp [ownersOf_eq_nil found]
    | some first =>
      have group : groupOf? (declaredNames layout ids) key
          = some ⟨first.1, ownersOf (declaredNames layout ids) key⟩ := by
        rw [groupOf?, found]
        rfl
      apply single ⟨first.1, ownersOf (declaredNames layout ids) key⟩
      rw [mem_nameGroups, foldCase_of_groupOf? group]
      exact group
  · intro count group listed
    obtain ⟨first, -, same⟩ := Option.map_eq_some_iff.mp (mem_nameGroups.mp listed)
    rw [← same, length_ownersOf]
    exact count _

theorem map_fst_declaredNames (layout : Layout) (ids : List String) :
    (declaredNames layout ids).map (·.1) = reservedNames layout ++ ids.map Naming.className := by
  simp [declaredNames, Function.comp_def]

theorem checkCollisions_eq_ok_iff_nodup {layout : Layout} {schema : Schema} :
    checkCollisions layout schema = .ok ()
      ↔ ((reservedNames layout ++ schema.collections.map fun entry =>
          Naming.className entry.1).map foldCase).Nodup := by
  have fold : (fun entry : String × String => foldCase entry.1) = foldCase ∘ (·.1) := rfl
  rw [checkCollisions_eq_ok, collisions_eq_nil_iff_nodup, fold, ← List.map_map,
    map_fst_declaredNames, List.map_map]
  rfl

theorem nodup_of_checkCollisions {layout : Layout} {schema : Schema}
    (h : checkCollisions layout schema = .ok ()) :
    ((reservedNames layout ++ schema.collections.map fun entry => Naming.className entry.1).map
      foldCase).Nodup :=
  checkCollisions_eq_ok_iff_nodup.mp h

theorem nodup_ids_of_checkCollisions {layout : Layout} {schema : Schema}
    (h : checkCollisions layout schema = .ok ()) : (schema.collections.map (·.1)).Nodup := by
  have declared := ((nodup_of_checkCollisions h).of_map foldCase).of_append_right
  have ids : ((schema.collections.map (·.1)).map Naming.className).Nodup := by
    rw [List.map_map]
    exact declared
  exact ids.of_map Naming.className

/-- The check does not depend on the order of the collections. -/
theorem checkCollisions_eq_ok_of_perm {layout : Layout} {schema other : Schema}
    (h : schema.collections.Perm other.collections) :
    checkCollisions layout schema = .ok () ↔ checkCollisions layout other = .ok () := by
  rw [checkCollisions_eq_ok_iff_nodup, checkCollisions_eq_ok_iff_nodup]
  exact (((h.map _).append_left _).map foldCase).nodup_iff

/-- A data model without one of the collections passes the check too. -/
theorem checkCollisions_of_cons_perm {layout : Layout} {schema other : Schema}
    {entry : String × Collection} (h : (entry :: schema.collections).Perm other.collections)
    (passed : checkCollisions layout other = .ok ()) : checkCollisions layout schema = .ok () := by
  rw [checkCollisions_eq_ok_iff_nodup] at passed ⊢
  have declared := (h.map fun entry => Naming.className entry.1).append_left
    (reservedNames layout)
  have names := (List.perm_middle.symm.trans declared).map foldCase
  exact (List.nodup_cons.mp (names.nodup_iff.mpr passed)).2

end Typescribe.Declaration
