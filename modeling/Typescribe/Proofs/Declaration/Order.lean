import Mathlib.Data.List.Pairwise
import Typescribe.Proofs.Declaration.Targets

/-!
This module contains what becomes of the declarations when the collections and the relations of a
data model come in another order, or when a collection is added that no relation names: the file of
each collection stays as it is.
-/

namespace Typescribe.Declaration

variable {σ : Type} {config : Config} {schema other : Schema} {choices : ChoiceSource σ}
  {s t u : Session σ}

/-! ### First matches that are the only ones -/

theorem findSome?_eq_some_iff_of_unique {α β : Type} {f : α → Option β} {as : List α}
    (unique : ∀ a ∈ as, ∀ b ∈ as, (f a).isSome → (f b).isSome → f a = f b) {b : β} :
    as.findSome? f = some b ↔ ∃ a ∈ as, f a = some b := by
  refine ⟨List.exists_of_findSome?_eq_some, ?_⟩
  rintro ⟨a, ha, same⟩
  cases found : as.findSome? f with
  | none => exact absurd (List.findSome?_eq_none_iff.mp found a ha) (by simp [same])
  | some c =>
    obtain ⟨first, hf, first'⟩ := List.exists_of_findSome?_eq_some found
    rw [← first', ← same]
    exact unique first hf a ha (by simp [first']) (by simp [same])

theorem findSome?_eq_of_perm {α β : Type} {f : α → Option β} {as bs : List α} (h : as.Perm bs)
    (unique : ∀ a ∈ as, ∀ b ∈ as, (f a).isSome → (f b).isSome → f a = f b) :
    bs.findSome? f = as.findSome? f := by
  apply Option.ext
  intro b
  have unique' : ∀ a ∈ bs, ∀ b ∈ bs, (f a).isSome → (f b).isSome → f a = f b :=
    fun a ha b hb => unique a (h.mem_iff.mpr ha) b (h.mem_iff.mpr hb)
  rw [findSome?_eq_some_iff_of_unique unique, findSome?_eq_some_iff_of_unique unique']
  simp only [h.mem_iff]

/-! ### Relations -/

/-- Where a relation shows its other side: the collection and the field, if both are given. -/
def shownAt? (relation : Relation) : Option (String × String) :=
  match relation.sides with
  | some ⟨_, _, some collection, some field, _, _⟩ => some (collection, field)
  | _ => none

/-- No two relations are declared on one field, and no two show their other side at one field. -/
structure AreDistinct (relations : List Relation) : Prop where
  declared : (relations.map fun r => (r.collection, r.field)).Nodup
  shown : (relations.filterMap shownAt?).Nodup

theorem relationFor?_of_perm (h : schema.relations.Perm other.relations)
    (distinct : AreDistinct schema.relations) (collection field : String) :
    other.relationFor? (some collection) (some field)
      = schema.relationFor? (some collection) (some field) := by
  unfold Schema.relationFor?
  rw [List.find?_eq_findSome?_guard, List.find?_eq_findSome?_guard]
  apply findSome?_eq_of_perm h
  intro a ha b hb first second
  simp only [Option.isSome_guard, Bool.and_eq_true, decide_eq_true_eq, Option.some.injEq]
    at first second
  have same : (a.collection, a.field) = (b.collection, b.field) := by
    rw [first.1, first.2, second.1, second.2]
  rw [List.inj_on_of_nodup_map distinct.declared ha hb same]

theorem eq_of_shownAt? {relations : List Relation} (distinct : AreDistinct relations)
    {a b : Relation} (ha : a ∈ relations) (hb : b ∈ relations) {place : String × String}
    (first : shownAt? a = some place) (second : shownAt? b = some place) : a = b := by
  by_contra different
  have apart := List.pairwise_filterMap.mp distinct.shown
  have : Std.Symm fun a b : Relation => ∀ p, shownAt? a = some p →
      ∀ q, shownAt? b = some q → p ≠ q :=
    ⟨fun a b apart p hp q hq same => apart q hq p hp same.symm⟩
  exact apart.forall ha hb different place first place second rfl

/-- The relation with its sides, if it shows its other side at the given field. -/
def shownThere? (collection field : String) (relation : Relation) :
    Option (Relation × RelationMeta) :=
  relation.sides.bind fun sides =>
    if sides.oneCollection = some collection ∧ sides.oneField = some field then
      some (relation, sides)
    else none

theorem reverseRelationFor?_eq_findSome? (schema : Schema) (collection field : String) :
    schema.reverseRelationFor? (some collection) (some field)
      = schema.relations.findSome? (shownThere? collection field) := by
  unfold Schema.reverseRelationFor?
  congr 1
  funext relation
  unfold shownThere?
  cases relation.sides <;> rfl

theorem shownAt?_of_shownThere? {collection field : String} {relation : Relation}
    (h : (shownThere? collection field relation).isSome) :
    shownAt? relation = some (collection, field) := by
  unfold shownThere? at h
  rw [shownAt?]
  rcases given : relation.sides with _ | ⟨_, _, one, shown, _, _⟩
  · rw [given] at h
    cases h
  · rw [given, Option.bind_some] at h
    split at h
    · next same =>
      obtain ⟨rfl, rfl⟩ := same
      rfl
    · cases h

theorem reverseRelationFor?_of_perm (h : schema.relations.Perm other.relations)
    (distinct : AreDistinct schema.relations) (collection field : String) :
    other.reverseRelationFor? (some collection) (some field)
      = schema.reverseRelationFor? (some collection) (some field) := by
  rw [reverseRelationFor?_eq_findSome?, reverseRelationFor?_eq_findSome?]
  apply findSome?_eq_of_perm h
  intro a ha b hb first second
  rw [eq_of_shownAt? distinct ha hb (shownAt?_of_shownThere? first)
    (shownAt?_of_shownThere? second)]

/-! ### Reordered data models -/

/-- The same collections and the same relations, each in any order. -/
structure Reordered (schema other : Schema) : Prop where
  collections : schema.collections.Perm other.collections
  relations : schema.relations.Perm other.relations

theorem Reordered.sameTargets (h : Reordered schema other)
    (keys : (schema.collections.map (·.1)).Nodup) (distinct : AreDistinct schema.relations) :
    SameTargets schema other where
  forward := relationFor?_of_perm h.relations distinct
  reverse := reverseRelationFor?_of_perm h.relations distinct
  target _ _ id _ := by
    have same := Ordered.get?_eq_of_perm h.collections keys id
    exact congrArg (Option.map (·.collection)) same

/-- A relation names an identifier as a target, as an allowed target or as the side with the keys. -/
def Names (relation : Relation) (id : String) : Prop :=
  relation.relatedCollection = some id
    ∨ ∃ sides, relation.sides = some sides
        ∧ (id ∈ sides.oneAllowedCollections
          ∨ sides.oneCollection.isSome ∧ sides.oneField.isSome ∧ manySide relation sides = id)

theorem names_of_pointsAt {relation : Relation} {id : String} (h : PointsAt relation id) :
    Names relation id := by
  cases h with
  | candidate listed one =>
    unfold candidates? at listed
    split at listed
    · cases listed
      exact .inl (Option.mem_toList.mp one)
    · split at listed
      · next sides given =>
        split at listed
        · cases listed
        · cases listed
          exact .inr ⟨sides, given, .inl one⟩
      · cases listed
  | many given one shown => exact .inr ⟨_, given, .inr ⟨by simp [one], by simp [shown], rfl⟩⟩

/-- A data model with one more collection, at any place, that no relation names. -/
structure Adds (entry : String × Collection) (schema other : Schema) : Prop where
  collections : (entry :: schema.collections).Perm other.collections
  relations : other.relations = schema.relations
  unnamed : ∀ relation ∈ schema.relations, ¬Names relation entry.1

theorem Adds.sameTargets {entry : String × Collection} (h : Adds entry schema other)
    (keys : (other.collections.map (·.1)).Nodup) : SameTargets schema other where
  forward _ _ := by rw [Schema.relationFor?, h.relations, Schema.relationFor?]
  reverse _ _ := by rw [Schema.reverseRelationFor?, h.relations, Schema.reverseRelationFor?]
  target relation listed id points := by
    have different : entry.1 ≠ id := by
      rintro rfl
      exact h.unnamed relation listed (names_of_pointsAt points)
    have same := Ordered.get?_eq_of_perm h.collections.symm keys id
    rw [Ordered.get?, if_neg different] at same
    exact congrArg (Option.map (·.collection)) same.symm

/-! ### Their declarations -/

theorem SameTargets.renderedOf (h : SameTargets schema other) (answer : ChoiceSource.Answers) :
    renderedOf config other answer = (collectionsOf other).map fun collection =>
      ⟨collection, resolvedOf config schema answer collection⟩ := by
  apply List.map_congr_left
  intro collection _
  apply congrArg (Rendered.mk collection)
  apply List.map_congr_left
  rintro ⟨_, field⟩ -
  exact congrArg (Resolved.mk field) (h.resolutionOf field _)

def renderedFile (config : Config) (r : Rendered) : GeneratedFile :=
  interfaceFile config (r.interface config)

def indexText (config : Config) (imports entries : List String) : String :=
  withImports imports
    (linesText ((config.keyword ++ " type Collections = \x7b") :: entries ++ ["\x7d"]))

/-- Two index files with the same imports and the same entries, each in any order. -/
def SameIndex (config : Config) (index other : GeneratedFile) : Prop :=
  ∃ imports entries imports' entries', imports.Perm imports' ∧ entries.Perm entries'
    ∧ index = ⟨indexFileName, indexText config imports entries⟩
    ∧ other = ⟨indexFileName, indexText config imports' entries'⟩

theorem files_generationOf (split : config.layout = .split) (rendered : List Rendered) :
    (generationOf config schema rendered).files = rendered.map (renderedFile config)
      ++ [indexFile config schema (rendered.map (·.interface config))] := by
  simp only [generationOf, outputFiles, split, splitFiles, List.map_map]
  rfl

theorem importLines_perm {names others : List String} (h : names.Perm others) :
    (importLines config names).Perm (importLines config others) := by
  unfold importLines
  cases config.mode with
  | ambient => exact .nil
  | exported => exact h.map importLine

theorem sameIndex_of_perm {rendered others : List Rendered} (h : rendered.Perm others)
    (collections : (collectionsOf schema).Perm (collectionsOf other)) :
    SameIndex config (indexFile config schema (rendered.map (·.interface config)))
      (indexFile config other (others.map (·.interface config))) := by
  have names := (h.map (·.interface config)).map (·.name)
  exact ⟨_, _, _, _, importLines_perm names, collections.map indexEntry, rfl, rfl⟩

section Runs

variable {kept : σ → Prop} {answer : ChoiceSource.Answers}

theorem failures_perm_of_perm {rendered others : List Rendered} (h : rendered.Perm others) :
    (generationOf config schema rendered).failures.Perm
      (generationOf config other others).failures := by
  have interfaces := h.map (·.interface config)
  exact interfaces.flatMap_right (·.failures)

/--
Generation does not depend on the order of collections and relations, and a collection that no
relation names changes no file but its own and the index. Sources of choices are those with one
answer for each field: others can tell the order of the collections by that of the lookups.
-/
theorem generate_reordered (config : Config) (steady : choices.AnswersFrom kept answer)
    (start : kept s.state) (otherStart : kept u.state) :
    (∀ schema other, Reordered schema other → AreDistinct schema.relations →
        (checkCollisions config.layout schema = .ok ()
            ↔ checkCollisions config.layout other = .ok ())
          ∧ ∀ result t, Step.Yields (generate config schema choices) s result t →
              ∃ result' v, Step.Yields (generate config other choices) u result' v
                ∧ result.failures.Perm result'.failures
                ∧ (config.layout = .split → ∃ files index files' index',
                    result.files = files ++ [index] ∧ result'.files = files' ++ [index']
                      ∧ files.Perm files' ∧ SameIndex config index index'))
      ∧ ∀ entry schema other, Adds entry schema other →
          checkCollisions config.layout other = .ok () →
            ∃ result t result' v, Step.Yields (generate config schema choices) s result t
              ∧ Step.Yields (generate config other choices) u result' v
              ∧ (config.layout = .split → ∃ files index files' index' added,
                  result.files = files ++ [index] ∧ index.path = indexFileName
                    ∧ result'.files = files' ++ [index'] ∧ index'.path = indexFileName
                    ∧ files'.Perm (added :: files)
                    ∧ added.path = Naming.className entry.2.collection ++ declarationSuffix) := by
  constructor
  · intro schema other reordered distinct
    have check : checkCollisions config.layout schema = .ok ()
        ↔ checkCollisions config.layout other = .ok () :=
      checkCollisions_eq_ok_of_perm reordered.collections
    refine ⟨check, ?_⟩
    intro result t run
    obtain ⟨passed, -⟩ := generationOf_of_generate run
    have same := reordered.sameTargets (nodup_ids_of_checkCollisions passed) distinct
    have collections : (collectionsOf schema).Perm (collectionsOf other) :=
      reordered.collections.map _
    have rendered : (renderedOf config schema answer).Perm (renderedOf config other answer) := by
      rw [same.renderedOf]
      exact collections.map _
    obtain ⟨w, known⟩ := exists_yields_generationOf steady start passed
    cases known.symm.trans run
    obtain ⟨v, run'⟩ := exists_yields_generationOf steady otherStart (check.mp passed)
    refine ⟨_, v, run', failures_perm_of_perm rendered, ?_⟩
    intro split
    exact ⟨_, _, _, _, files_generationOf split _, files_generationOf split _,
      rendered.map (renderedFile config), sameIndex_of_perm rendered collections⟩
  · intro entry schema other adds passed
    have same := adds.sameTargets (nodup_ids_of_checkCollisions passed)
    have passed' := checkCollisions_of_cons_perm adds.collections passed
    obtain ⟨t, run⟩ := exists_yields_generationOf steady start passed'
    obtain ⟨v, run'⟩ := exists_yields_generationOf steady otherStart passed
    refine ⟨_, t, _, v, run, run', ?_⟩
    intro split
    have rendered : (renderedOf config other answer).Perm
        (⟨entry.2, resolvedOf config schema answer entry.2⟩ :: renderedOf config schema answer) := by
      rw [same.renderedOf]
      exact (adds.collections.symm.map (·.2)).map _
    exact ⟨_, _, _, _, _, files_generationOf split _, rfl, files_generationOf split _, rfl,
      rendered.map (renderedFile config), rfl⟩

theorem generate_reordered_linkedCollections :
    let reversed : Schema := { linkedCollections with
      collections := linkedCollections.collections.reverse }
    ∃ result t result' v,
      Step.Yields (generate { layout := .split } linkedCollections .unimplemented)
          (⟨(), []⟩ : Session Unit) result t
        ∧ Step.Yields (generate { layout := .split } reversed .unimplemented)
          (⟨(), []⟩ : Session Unit) result' v
        ∧ result.failures.Perm result'.failures
        ∧ ∃ files index files' index', result.files = files ++ [index]
            ∧ result'.files = files' ++ [index'] ∧ files.Perm files'
            ∧ SameIndex { layout := .split } index index' := by
  intro reversed
  have passed : checkCollisions .split linkedCollections = .ok () :=
    checkCollisions_eq_ok.mpr (collisions_eq_nil_iff.mpr (by decide))
  have distinct : AreDistinct linkedCollections.relations := ⟨by decide, by decide⟩
  obtain ⟨result, t, run⟩ := exists_yields_generate { layout := .split } linkedCollections
    .unimplemented (⟨(), []⟩ : Session Unit) passed
  obtain ⟨any, -⟩ := generate_reordered { layout := .split }
    (ChoiceSource.answersFrom_unimplemented (σ := Unit)) (s := ⟨(), []⟩) (u := ⟨(), []⟩)
    trivial trivial
  obtain ⟨-, all⟩ := any linkedCollections reversed
    ⟨(List.reverse_perm _).symm, .refl _⟩ distinct
  obtain ⟨result', v, run', failures, files⟩ := all result t run
  exact ⟨result, t, result', v, run, run', failures, files rfl⟩

/-- A source that offers a choice for the field it is asked for first, and for no other. -/
def onceOnly : ChoiceSource Bool where
  lookup collection field := do
    let spent ← Step.state
    Step.setState true
    return some { collection, field, choices := if spent then [] else [⟨.text "new", none⟩] }
  all := return []

/-- Two collections without relations, each with a field that can have choices. -/
def unrelatedCollections : Schema where
  collections := ["a", "b"].map fun id =>
    (id, ⟨id, false, [("status", { collection := id, field := "status", typeTag := "string" })]⟩)

theorem not_mem_files_reversed_onceOnly :
    let schema := unrelatedCollections
    let reversed : Schema := { schema with collections := schema.collections.reverse }
    IsKeyed schema ∧ Reordered schema reversed ∧ AreDistinct schema.relations
      ∧ ∃ result t result' v,
        Step.Yields (generate { layout := .split } schema onceOnly)
            (⟨false, []⟩ : Session Bool) result t
          ∧ Step.Yields (generate { layout := .split } reversed onceOnly)
            (⟨false, []⟩ : Session Bool) result' v
          ∧ ∃ file ∈ result.files, file.path = "A.d.ts" ∧ file ∉ result'.files := by
  intro schema reversed
  have passed : checkCollisions .split schema = .ok () :=
    checkCollisions_eq_ok.mpr (collisions_eq_nil_iff.mpr (by decide))
  have passed' : checkCollisions .split reversed = .ok () :=
    checkCollisions_eq_ok.mpr (collisions_eq_nil_iff.mpr (by decide))
  obtain ⟨result, t, run⟩ := exists_yields_generate { layout := .split } schema onceOnly
    (⟨false, []⟩ : Session Bool) passed
  obtain ⟨result', v, run'⟩ := exists_yields_generate { layout := .split } reversed onceOnly
    (⟨false, []⟩ : Session Bool) passed'
  -- The first file is that of the collection that is asked for first in one of the runs only.
  have apart :
      ((generate { layout := .split } schema onceOnly).run.run ⟨false, []⟩).1.toOption.any
        fun result =>
          ((generate { layout := .split } reversed onceOnly).run.run ⟨false, []⟩).1.toOption.any
            fun result' => result.files.head?.any
              fun file => file.path = "A.d.ts" && !result'.files.contains file := by
    decide +kernel
  rw [run, run'] at apart
  have apart : result.files.head?.any
      fun file => file.path = "A.d.ts" && !result'.files.contains file := apart
  cases first : result.files.head? with
  | none =>
    rw [first] at apart
    cases apart
  | some file =>
    rw [first, Option.any_some, Bool.and_eq_true, decide_eq_true_eq] at apart
    obtain ⟨named, missing⟩ := apart
    refine ⟨by unfold IsKeyed; decide, ⟨(List.reverse_perm _).symm, .refl _⟩, ⟨.nil, .nil⟩,
      result, t, result', v, run, run', file, List.mem_of_head? first, named, ?_⟩
    simpa using missing

end Runs

end Typescribe.Declaration
