import Typescribe.Proofs.Declaration.Collision

/-!
This module contains what the report of a failed check for collisions says: it has one group for
each name that has several owners but for its letter case, and each group names all of the owners.
-/

namespace Typescribe.Declaration

open Naming (className)

/-- Are two names the same but for their letter case? -/
def sameName (a b : String) : Bool :=
  foldCase a = foldCase b

/-- What has a name but for its letter case: a reserved name counts as one owner. -/
def bearers (layout : Layout) (ids : List String) (name : String) : List String :=
  (if (reservedNames layout).any (sameName · name) then [reservedOwner] else [])
    ++ ids.filter fun id => sameName (className id) name

/-- The name of a collection is reserved, or the name of another collection too. -/
def Collides (layout : Layout) (ids : List String) (id : String) : Prop :=
  (∃ reserved ∈ reservedNames layout, sameName reserved (className id))
    ∨ ∃ other ∈ ids.erase id, sameName (className other) (className id)

/-- The first spelling of a name among those that are declared. -/
def firstSpelling? (layout : Layout) (ids : List String) (name : String) : Option String :=
  (reservedNames layout ++ ids.map className).find? (sameName · name)

/--
The groups are the names with several owners, each under its first spelling, and no two groups have
one name. The identifier of a collection can read as the mark of a reserved name, for which the mark
in another group then stands as well.
-/
structure ReportsExactly (layout : Layout) (ids : List String) (found : Collisions) : Prop where
  first : ∀ group ∈ found, firstSpelling? layout ids group.1 = some group.1
  owners : ∀ group ∈ found, group.2.Perm (bearers layout ids group.1) ∧ 2 ≤ group.2.length
  sorted : ∀ group ∈ found, group.2.Pairwise (· ≤ ·)
  distinct : found.Pairwise fun a b => ¬sameName a.1 b.1
  listed : ∀ id ∈ ids, Collides layout ids id →
    ∃ group ∈ found, sameName (className id) group.1 ∧ id ∈ group.2
      ∧ ∀ other ∈ found, id ∈ other.2 → id = reservedOwner ∨ other = group
  colliding : ∀ group ∈ found, ∀ owner ∈ group.2,
    owner = reservedOwner ∨ owner ∈ ids ∧ Collides layout ids owner

theorem sameName_iff {a b : String} : sameName a b ↔ foldCase a = foldCase b :=
  decide_eq_true_iff

theorem bearers_congr {layout : Layout} {ids : List String} {name other : String}
    (h : sameName name other) : bearers layout ids name = bearers layout ids other := by
  have same (a : String) : sameName a name = sameName a other := by
    rw [sameName, sameName, sameName_iff.mp h]
  simp only [bearers, same]

theorem map_filter_of_nodup {names : List String} (nodup : (names.map foldCase).Nodup)
    (name owner : String) :
    (names.filter (sameName · name)).map (fun _ => owner)
      = if names.any (sameName · name) then [owner] else [] := by
  induction names with
  | nil => rfl
  | cons first names ih =>
    obtain ⟨fresh, nodup⟩ := List.nodup_cons.mp nodup
    rw [List.any_cons]
    cases same : sameName first name with
    | true =>
      have others : names.filter (sameName · name) = [] := by
        rw [List.filter_eq_nil_iff]
        intro other member equal
        rw [sameName_iff.mp same, ← sameName_iff.mp equal] at fresh
        exact fresh (List.mem_map_of_mem member)
      rw [List.filter_cons_of_pos (by exact same), others]
      rfl
    | false =>
      rw [List.filter_cons_of_neg (by simp [same]), ih nodup, Bool.false_or]

theorem nodup_reservedNames (layout : Layout) : ((reservedNames layout).map foldCase).Nodup := by
  cases layout <;> decide +kernel

theorem ownersOf_declaredNames (layout : Layout) (ids : List String) (name : String) :
    ownersOf (declaredNames layout ids) (foldCase name) = bearers layout ids name := by
  rw [bearers, ← map_filter_of_nodup (nodup_reservedNames layout), ownersOf, declaredNames,
    List.filter_append, List.map_append, List.filter_map, List.filter_map, List.map_map,
    List.map_map]
  simp only [Function.comp_def, List.map_id', sameName]

theorem collides_iff {layout : Layout} {ids : List String} {id : String} (h : id ∈ ids) :
    Collides layout ids id ↔ 2 ≤ (bearers layout ids (className id)).length := by
  have itself : sameName (className id) (className id) := sameName_iff.mpr rfl
  have others := ((List.perm_cons_erase h).filter fun other =>
    sameName (className other) (className id)).length_eq
  rw [List.filter_cons_of_pos (by exact itself), List.length_cons] at others
  have another : (∃ other ∈ ids.erase id, sameName (className other) (className id))
      ↔ 0 < ((ids.erase id).filter fun other =>
          sameName (className other) (className id)).length := by
    rw [List.length_pos_iff_exists_mem]
    simp only [List.mem_filter]
  unfold Collides bearers
  rw [List.length_append, others, another, ← List.any_eq_true]
  split
  · next reserved =>
    apply iff_of_true (.inl reserved)
    rw [List.length_singleton]
    omega
  · next free =>
    rw [or_iff_right free, List.length_nil]
    omega

section Report

variable {layout : Layout} {ids : List String} {group : String × List String}

theorem groupOf?_eq_some_iff {shared : NameGroup} :
    groupOf? (declaredNames layout ids) (foldCase shared.name) = some shared
      ↔ firstSpelling? layout ids shared.name = some shared.name
        ∧ shared.owners = bearers layout ids shared.name := by
  have spelling : firstSpelling? layout ids shared.name
      = ((declaredNames layout ids).find? fun entry => foldCase entry.1 = foldCase shared.name).map
        (·.1) := by
    rw [firstSpelling?, ← map_fst_declaredNames, List.find?_map]
    rfl
  rw [spelling, groupOf?, ownersOf_declaredNames]
  cases (declaredNames layout ids).find? fun entry => foldCase entry.1 = foldCase shared.name with
  | none => simp
  | some first =>
    obtain ⟨name, owners⟩ := shared
    simp only [Option.map_some, Option.some.injEq, NameGroup.mk.injEq]
    exact and_congr_right fun _ => eq_comm

/-- A group of the report is a name with several owners, and all of these. -/
theorem mem_collisions :
    group ∈ collisions layout ids
      ↔ firstSpelling? layout ids group.1 = some group.1
        ∧ 2 ≤ (bearers layout ids group.1).length
        ∧ group.2 = (bearers layout ids group.1).mergeSort (· ≤ ·) := by
  obtain ⟨name, owners⟩ := group
  rw [(collisions_perm layout ids).mem_iff, List.mem_map]
  simp only [List.mem_filter, mem_nameGroups, groupOf?_eq_some_iff, Prod.mk.injEq,
    decide_eq_true_eq]
  constructor
  · rintro ⟨shared, ⟨⟨first, owners⟩, several⟩, rfl, rfl⟩
    exact ⟨first, owners ▸ several, owners ▸ rfl⟩
  · rintro ⟨first, several, rfl⟩
    exact ⟨⟨name, bearers layout ids name⟩, ⟨⟨first, rfl⟩, several⟩, rfl, rfl⟩

theorem sameName_of_firstSpelling? {name first : String}
    (h : firstSpelling? layout ids name = some first) : sameName first name := by
  rw [firstSpelling?] at h
  have found := List.find?_some h
  exact found

theorem firstSpelling?_congr {name other : String} (h : sameName name other) :
    firstSpelling? layout ids name = firstSpelling? layout ids other := by
  simp only [firstSpelling?, sameName, sameName_iff.mp h]

theorem exists_firstSpelling? {id : String} (h : id ∈ ids) :
    ∃ first, firstSpelling? layout ids (className id) = some first := by
  rw [← Option.isSome_iff_exists, firstSpelling?, List.find?_isSome]
  exact ⟨className id, List.mem_append_right _ (List.mem_map_of_mem h), sameName_iff.mpr rfl⟩

theorem mem_bearers {id : String} (h : id ∈ ids) : id ∈ bearers layout ids (className id) := by
  rw [bearers, List.mem_append, List.mem_filter]
  exact .inr ⟨h, sameName_iff.mpr rfl⟩

theorem exists_group_of_collides {id : String} (h : id ∈ ids) (collides : Collides layout ids id) :
    ∃ group ∈ collisions layout ids, sameName (className id) group.1 ∧ id ∈ group.2 := by
  obtain ⟨first, spelling⟩ : ∃ first, firstSpelling? layout ids (className id) = some first :=
    exists_firstSpelling? h
  have same := sameName_of_firstSpelling? spelling
  have owners : bearers layout ids first = bearers layout ids (className id) := bearers_congr same
  refine ⟨(first, (bearers layout ids first).mergeSort (· ≤ ·)), ?_, ?_, ?_⟩
  · rw [mem_collisions, owners]
    exact ⟨(firstSpelling?_congr same).trans spelling, (collides_iff h).mp collides, rfl⟩
  · exact sameName_iff.mpr (sameName_iff.mp same).symm
  · rw [List.mem_mergeSort, owners]
    exact mem_bearers h

/-- Who is named in a group is the mark of a reserved name, or collides under the group's name. -/
theorem of_mem_group (h : group ∈ collisions layout ids) {owner : String}
    (member : owner ∈ group.2) :
    owner = reservedOwner
      ∨ owner ∈ ids ∧ sameName (className owner) group.1 ∧ Collides layout ids owner := by
  obtain ⟨-, several, owners⟩ := mem_collisions.mp h
  rw [owners, List.mem_mergeSort, bearers, List.mem_append, List.mem_filter] at member
  rcases member with mark | ⟨member, same⟩
  · split at mark
    · exact .inl (List.mem_singleton.mp mark)
    · cases mark
  · rw [← bearers_congr same] at several
    exact .inr ⟨member, same, (collides_iff member).mpr several⟩

/-- A reserved name has one mark in a group, so that a group of several names a collection. -/
theorem exists_collides_of_mem (h : group ∈ collisions layout ids) :
    ∃ id ∈ ids, Collides layout ids id := by
  obtain ⟨-, several, owners⟩ := mem_collisions.mp h
  have marks : (if (reservedNames layout).any (sameName · group.1) then [reservedOwner]
      else []).length ≤ 1 := by
    split <;> simp
  obtain ⟨id, hid⟩ : ∃ id, id ∈ ids.filter fun id => sameName (className id) group.1 := by
    rw [bearers, List.length_append] at several
    apply List.exists_mem_of_length_pos
    omega
  obtain ⟨member, same⟩ := List.mem_filter.mp hid
  rw [← bearers_congr same] at several
  exact ⟨id, member, (collides_iff member).mpr several⟩

theorem pairwise_not_sameName (layout : Layout) (ids : List String) :
    (collisions layout ids).Pairwise fun a b => ¬sameName a.1 b.1 := by
  have kept : ((nameGroups layout ids).filter fun group => 1 < group.owners.length).Sublist
      (nameGroups layout ids) := List.filter_sublist
  have groups : ((collisions layout ids).map fun group => foldCase group.1).Nodup := by
    rw [((collisions_perm layout ids).map _).nodup_iff, List.map_map]
    exact (nodup_nameGroups layout ids).sublist (kept.map _)
  exact (List.pairwise_map.mp groups).imp fun different same => different (sameName_iff.mp same)

/-- Of the groups of one name there is one. -/
theorem eq_of_sameName {other : String × List String} (h : group ∈ collisions layout ids)
    (ho : other ∈ collisions layout ids) (same : sameName group.1 other.1) : group = other := by
  obtain ⟨first, -, owners⟩ := mem_collisions.mp h
  obtain ⟨otherFirst, -, otherOwners⟩ := mem_collisions.mp ho
  rw [firstSpelling?_congr same, otherFirst] at first
  have name : other.1 = group.1 := Option.some.inj first
  exact Prod.ext name.symm (by rw [owners, otherOwners, name])

theorem pairwise_mergeSort_le (names : List String) :
    (names.mergeSort (· ≤ ·)).Pairwise (· ≤ ·) := by
  have sorted : (names.mergeSort (· ≤ ·)).Pairwise fun a b => decide (a ≤ b) := by
    apply List.pairwise_mergeSort
    · intro a b c hab hbc
      exact decide_eq_true (String.le_trans (of_decide_eq_true hab) (of_decide_eq_true hbc))
    · intro a b
      simpa using String.le_total a b
  exact sorted.imp of_decide_eq_true

theorem reportsExactly_collisions (layout : Layout) (ids : List String) :
    ReportsExactly layout ids (collisions layout ids) := by
  constructor
  case first => exact fun group h => (mem_collisions.mp h).1
  case owners =>
    intro group h
    obtain ⟨-, several, owners⟩ := mem_collisions.mp h
    rw [owners]
    exact ⟨List.mergeSort_perm _ _, by rwa [List.length_mergeSort]⟩
  case sorted =>
    intro group h
    obtain ⟨-, -, owners⟩ := mem_collisions.mp h
    rw [owners]
    exact pairwise_mergeSort_le _
  case distinct => exact pairwise_not_sameName layout ids
  case listed =>
    intro id h collides
    obtain ⟨group, member, same, named⟩ := exists_group_of_collides h collides
    refine ⟨group, member, same, named, ?_⟩
    intro other hother elsewhere
    obtain mark | ⟨-, sameOther, -⟩ := of_mem_group hother elsewhere
    · exact .inl mark
    · refine .inr (eq_of_sameName hother member ?_)
      rw [sameName_iff, ← sameName_iff.mp sameOther, sameName_iff.mp same]
  case colliding =>
    intro group h owner member
    obtain mark | ⟨known, -, collides⟩ := of_mem_group h member
    · exact .inl mark
    · exact .inr ⟨known, collides⟩

end Report

/--
The check for collisions is exact. It fails just if the name of some collection is reserved or the
name of another collection too, whatever the letter case, and then it reports all such names.
-/
theorem checkCollisions_exact (layout : Layout) (schema : Schema) :
    let ids := schema.collections.map (·.1)
    (checkCollisions layout schema = .ok () ∧ ∀ id ∈ ids, ¬Collides layout ids id)
      ∨ ∃ found, checkCollisions layout schema = .error (.collision found)
        ∧ (∃ id ∈ ids, Collides layout ids id) ∧ ReportsExactly layout ids found := by
  intro ids
  have report := reportsExactly_collisions layout ids
  cases found : collisions layout ids with
  | nil =>
    refine .inl ⟨checkCollisions_eq_ok.mpr found, fun id h collides => ?_⟩
    obtain ⟨group, member, -⟩ := report.listed id h collides
    rw [found] at member
    cases member
  | cons group groups =>
    refine .inr ⟨collisions layout ids, ?_, ?_, report⟩
    · have some : (collisions layout ids).isEmpty = false := by rw [found]; rfl
      exact if_neg (by rw [some]; exact Bool.false_ne_true)
    · exact exists_collides_of_mem (found ▸ List.mem_cons_self)

end Typescribe.Declaration
