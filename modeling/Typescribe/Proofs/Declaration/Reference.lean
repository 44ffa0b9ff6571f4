import Mathlib.Data.String.Basic
import Typescribe.Declaration.Generation
import Typescribe.Proofs.Declaration.Interface
import Typescribe.Proofs.Ordered

/-!
This module contains the interfaces that fields refer to, and the order in which an interface lists
them.
-/

namespace Typescribe.Declaration

theorem mem_insertName {name other : String} {names : List String} :
    other ∈ insertName name names ↔ other = name ∨ other ∈ names := by
  induction names with
  | nil => simp [insertName]
  | cons first rest ih =>
    unfold insertName
    split
    · next same =>
      rw [same, List.mem_cons]
      tauto
    · split
      · exact List.mem_cons
      · rw [List.mem_cons, ih, List.mem_cons]
        tauto

theorem pairwise_insertName {name : String} {names : List String} (h : names.Pairwise (· < ·)) :
    (insertName name names).Pairwise (· < ·) := by
  induction names with
  | nil => exact List.pairwise_singleton _ _
  | cons first rest ih =>
    obtain ⟨least, ordered⟩ := List.pairwise_cons.mp h
    unfold insertName
    split
    · exact h
    · next different =>
      split
      · next before =>
        apply List.pairwise_cons.mpr
        refine ⟨fun other ho => ?_, h⟩
        cases List.mem_cons.mp ho with
        | inl ho => exact ho ▸ before
        | inr ho => exact String.lt_trans before (least other ho)
      · next notBefore =>
        have behind : first < name :=
          lt_of_le_of_ne (not_lt.mp notBefore) (Ne.symm different)
        apply List.pairwise_cons.mpr
        refine ⟨fun other ho => ?_, ih ordered⟩
        cases mem_insertName.mp ho with
        | inl ho => exact ho ▸ behind
        | inr ho => exact least other ho

theorem mem_sortNames {name : String} {names : List String} :
    name ∈ sortNames names ↔ name ∈ names := by
  induction names with
  | nil => exact Iff.rfl
  | cons first rest ih =>
    rw [sortNames, List.foldr_cons, mem_insertName, List.mem_cons]
    exact or_congr_right ih

theorem pairwise_sortNames (names : List String) : (sortNames names).Pairwise (· < ·) := by
  induction names with
  | nil => exact .nil
  | cons first rest ih => exact pairwise_insertName ih

/--
The interfaces that a field refers to: those of the collections that its relation can point at, or,
for an alias, that of the collection whose relation shows its other side there.
-/
inductive RefersTo (schema : Schema) (collection : Collection) (field : Field) : String → Prop where
  | forward {relation : Relation} {candidates : List String} {candidate : String}
    {target : Collection} (column : field.isAlias = false)
    (declared : schema.relationFor? (some collection.collection) (some field.field) = some relation)
    (listed : candidates? relation = some candidates) (one : candidate ∈ candidates)
    (found : schema.collection? (some candidate) = some target) :
    RefersTo schema collection field (Naming.className target.collection)
  | reverse {relation : Relation} {sides : RelationMeta} {target : Collection}
    (shown : field.isAlias = true)
    (declared : schema.reverseRelationFor? (some collection.collection) (some field.field)
      = some (relation, sides))
    (found : schema.collection? (some (manySide relation sides)) = some target) :
    RefersTo schema collection field (Naming.className target.collection)

theorem mem_targetNames {schema : Schema} {field : Field} {relation : Relation}
    {names : List String} (h : targetNames schema field relation = .ok names) {name : String} :
    name ∈ names ↔ ∃ candidates candidate target, candidates? relation = some candidates
      ∧ candidate ∈ candidates ∧ schema.collection? (some candidate) = some target
      ∧ Naming.className target.collection = name := by
  obtain ⟨candidates, listed, related⟩ := targetNames_eq_ok h
  constructor
  · intro hn
    obtain ⟨candidate, one, named⟩ := exists_of_mem_right related hn
    obtain ⟨target, found, same⟩ := targetName_eq_ok.mp named
    exact ⟨candidates, candidate, target, listed, one, found, same⟩
  · rintro ⟨others, candidate, target, same, one, found, rfl⟩
    cases listed.symm.trans same
    obtain ⟨name, hn, named⟩ := exists_of_mem_left related one
    obtain ⟨again, found', rfl⟩ := targetName_eq_ok.mp named
    cases found.symm.trans found'
    exact hn

section References

variable {σ : Type} {config : Config} {schema : Schema} {choices : ChoiceSource σ}
  {collection : Collection} {field : Field} {s t : Session σ}

theorem not_refersTo_of_unrelated (h : Unrelated schema collection field) (name : String) :
    ¬RefersTo schema collection field name := by
  unfold Unrelated at h
  intro refers
  cases refers with
  | forward column declared =>
    rw [if_neg (by simp [column])] at h
    cases h.symm.trans declared
  | reverse shown declared =>
    rw [if_pos shown] at h
    cases h.symm.trans declared

theorem mem_targetNames_iff_refersTo {relation : Relation} {names : List String} {name : String}
    (column : field.isAlias = false)
    (declared : schema.relationFor? (some collection.collection) (some field.field) = some relation)
    (targets : targetNames schema field relation = .ok names) :
    name ∈ names ↔ RefersTo schema collection field name := by
  rw [mem_targetNames targets]
  constructor
  · rintro ⟨candidates, candidate, target, listed, one, found, rfl⟩
    exact .forward column declared listed one found
  · intro refers
    cases refers with
    | forward _ declared' listed one found =>
      cases declared.symm.trans declared'
      exact ⟨_, _, _, listed, one, found, rfl⟩
    | reverse shown => cases column.symm.trans shown

theorem mem_references_iff {references parts : List String} {name : String}
    (h : Composed config schema choices collection field s references parts) :
    name ∈ references ↔ RefersTo schema collection field name := by
  cases h with
  | toOne column declared single targets bare =>
    exact mem_targetNames_iff_refersTo column declared targets
  | toMany column declared several targets bare =>
    exact mem_targetNames_iff_refersTo column declared targets
  | reverse shown declared target =>
    obtain ⟨target, found, rfl⟩ := targetName_eq_ok.mp target
    rw [List.mem_singleton]
    constructor
    · rintro rfl
      exact .reverse shown declared found
    · intro refers
      cases refers with
      | forward column => cases column.symm.trans shown
      | reverse _ declared' found' =>
        cases declared.symm.trans declared'
        cases found.symm.trans found'
        rfl
  | oneChoice plain | manyChoices plain | scalar plain =>
    exact iff_of_false List.not_mem_nil (not_refersTo_of_unrelated plain name)

theorem exists_mem_collectionsOf_of_refersTo {name : String}
    (h : RefersTo schema collection field name) :
    ∃ target ∈ collectionsOf schema, Naming.className target.collection = name := by
  have listed {id : String} {target : Collection}
      (found : schema.collection? (some id) = some target) : target ∈ collectionsOf schema :=
    List.mem_map.mpr ⟨_, Ordered.mem_of_get?_eq_some found, rfl⟩
  cases h with
  | forward _ _ _ _ found => exact ⟨_, listed found, rfl⟩
  | reverse _ _ found => exact ⟨_, listed found, rfl⟩

theorem mem_flatMap_references {resolved : List Resolved} {name : String}
    (h : ResolvedInTurn config schema choices collection s resolved t) :
    name ∈ (membersOf config resolved).flatMap Member.references
      ↔ ∃ r ∈ resolved, (∃ type, r.resolution = .ok type)
          ∧ RefersTo schema collection r.field name := by
  induction h with
  | nil => simp [membersOf]
  | @cons _ _ _ _ _ resolution _ head kept tail ih =>
    unfold membersOf at *
    rw [List.map_cons, List.flatMap_cons, List.mem_append, ih, List.exists_mem_cons_iff]
    apply or_congr_left
    cases resolution with
    | error fault => simp [Member.references]
    | ok type =>
      obtain ⟨parts, composed, -⟩ := composed_of_resolveField head
      simp [Member.references, mem_references_iff composed]

theorem mem_references_interfaceOf {resolved : List Resolved} {name : String}
    (h : ResolvedInTurn config schema choices collection s resolved t) :
    name ∈ (interfaceOf config collection resolved).references
      ↔ name ≠ Naming.className collection.collection
          ∧ ∃ r ∈ resolved, (∃ type, r.resolution = .ok type)
              ∧ RefersTo schema collection r.field name := by
  simp only [interfaceOf, Interface.ofMembers]
  rw [List.mem_filter, mem_sortNames, mem_flatMap_references h, decide_eq_true_eq]
  exact and_comm

theorem pairwise_references_interfaceOf (resolved : List Resolved) :
    (interfaceOf config collection resolved).references.Pairwise (· < ·) := by
  simp only [interfaceOf, Interface.ofMembers]
  exact (pairwise_sortNames _).filter _

end References

end Typescribe.Declaration
