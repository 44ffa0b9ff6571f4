import Typescribe.Declaration.Relation
import Typescribe.Proofs.Declaration.Atomic

/-!
This module contains the interfaces that relations point at and the parts of the types of relational
fields.
-/

namespace Typescribe.Declaration

theorem targetName_eq_ok {schema : Schema} {field : Field} {candidate name : String} :
    targetName schema field candidate = .ok name
      ↔ ∃ target, schema.collection? (some candidate) = some target
          ∧ Naming.className target.collection = name := by
  unfold targetName
  cases schema.collection? (some candidate) <;> simp

theorem candidates?_ne_nil {relation : Relation} {candidates : List String}
    (h : candidates? relation = some candidates) : candidates ≠ [] := by
  unfold candidates? at h
  split at h
  · next given =>
    cases hr : relation.relatedCollection with
    | none => simp [hr, isGiven] at given
    | some related =>
      rw [hr] at h
      cases h
      simp
  · split at h
    · split at h
      · cases h
      · next sides _ filled =>
        cases h
        simpa using filled
    · cases h

theorem targetNames_eq_ok {schema : Schema} {field : Field} {relation : Relation}
    {names : List String} (h : targetNames schema field relation = .ok names) :
    ∃ candidates, candidates? relation = some candidates
      ∧ List.Forall₂ (fun candidate name => targetName schema field candidate = .ok name)
          candidates names := by
  unfold targetNames at h
  split at h
  · next candidates hc => exact ⟨candidates, hc, forall₂_of_mapM_eq_ok h⟩
  · cases h

theorem targetNames_ne_nil {schema : Schema} {field : Field} {relation : Relation}
    {names : List String} (h : targetNames schema field relation = .ok names) : names ≠ [] := by
  obtain ⟨candidates, hc, related⟩ := targetNames_eq_ok h
  rintro rfl
  cases related
  exact candidates?_ne_nil hc rfl

theorem isMember_of_targetName {schema : Schema} {field : Field} {candidate name : String}
    (h : targetName schema field candidate = .ok name) : IsMember name := by
  obtain ⟨target, -, rfl⟩ := targetName_eq_ok.mp h
  exact .className target.collection

theorem isMember_of_mem_targetNames {schema : Schema} {field : Field} {relation : Relation}
    {names : List String} (h : targetNames schema field relation = .ok names) :
    ∀ name ∈ names, IsMember name := by
  intro name hn
  obtain ⟨candidates, -, related⟩ := targetNames_eq_ok h
  obtain ⟨candidate, -, target⟩ := exists_of_mem_right related hn
  exact isMember_of_targetName target

/-- What a `json` column may be declared as. -/
def IsPlainJson (jsonType : String) : Prop := jsonType = "any" ∨ jsonType = "unknown"

theorem isMember_of_scalarType? {jsonType tag type : String} (hj : IsPlainJson jsonType)
    (h : scalarType? jsonType tag = some type) : IsMember type := by
  have word : ∀ t ∈ ["boolean", "number", "string", "any", "unknown"], IsMember t := by
    intro t ht
    have letters : ∀ t ∈ ["boolean", "number", "string", "any", "unknown"],
        t ≠ "" ∧ t ≠ "null" ∧ '\n' ∉ t.toList ∧ t.toList.all Naming.isSafe := by decide
    obtain ⟨nonempty, notNull, line, safe⟩ := letters t ht
    have safe := List.all_eq_true.mp safe
    exact ⟨.of_forall (fun _ => not_mark_of_isSafe) nonempty safe, notNull, line⟩
  have texts : IsMember "string[]" := by
    have item := (word "string" (by decide)).atomic
    refine ⟨⟨item.solid.append (Solid.brackets Solid.nil.nested), ?_⟩, by decide, by decide⟩
    exact .of_forall (by decide) (Text.forall_mem_of_all rfl)
  unfold scalarType? at h
  split at h
  · cases h
    rcases hj with rfl | rfl
    · exact word _ (by decide)
    · exact word _ (by decide)
  · obtain ⟨front, back, table, -⟩ := List.lookup_eq_some_iff.mp h
    have listed : (tag, type) ∈ scalarTypes := by rw [table]; simp
    have types : ∀ entry ∈ scalarTypes,
        entry.2 ∈ ["boolean", "number", "string", "any", "unknown"] ∨ entry.2 = "string[]" := by
      decide
    rcases types _ listed with plain | array
    · exact word type plain
    · obtain rfl : type = "string[]" := array
      exact texts

theorem fieldScalarType_eq_ok {jsonType : String} {field : Field} {type : String} :
    fieldScalarType jsonType field = .ok type ↔ scalarType? jsonType field.typeTag = some type := by
  unfold fieldScalarType
  cases scalarType? jsonType field.typeTag <;> simp

theorem IsMember.array {item : String} (h : Atomic item) (line : '\n' ∉ item.toList) :
    IsMember (item ++ "[]") where
  atomic :=
    { solid := by
        rw [String.toList_append]
        exact h.solid.append (Solid.brackets Solid.nil.nested)
      trimmed := by
        rw [String.toList_append]
        exact h.trimmed.append (.of_forall (by decide) (Text.forall_mem_of_all rfl)) }
  notNull e := by
    have bracket : '[' ∈ "null".toList := by
      rw [← e]
      simp
    exact absurd bracket (by decide)
  line := by simpa using line

theorem IsMember.indexed {name : String} (h : IsMember name) (column : String) :
    IsMember (name ++ "[" ++ Json.quote column ++ "]") where
  atomic :=
    { solid := by
        have left : "[".toList = ['['] := rfl
        have right : "]".toList = [']'] := rfl
        have index := h.atomic.solid.append (Solid.brackets (solid_quote column).nested)
        simpa only [String.toList_append, List.append_assoc, List.cons_append, List.nil_append, left,
          right] using index
      trimmed := by
        simp only [String.toList_append]
        rw [List.append_assoc name.toList]
        exact h.atomic.trimmed.append_append (.of_forall (by decide) (Text.forall_mem_of_all rfl)) }
  notNull e := by
    have bracket : '[' ∈ "null".toList := by
      rw [← e]
      simp
    exact absurd bracket (by decide)
  line := by simpa using ⟨h.line, newline_not_mem_quote column⟩

theorem isMember_of_keyType {jsonType : String} (hj : IsPlainJson jsonType) {field : Field}
    {relation : Relation} {names : List String} (hn : ∀ name ∈ names, IsMember name) {key : String}
    (h : keyType jsonType field relation names = .ok key) : IsMember key := by
  unfold keyType at h
  split at h
  · split at h
    · cases h
      exact (hn _ (by simp)).indexed _
    · exact isMember_of_scalarType? hj (fieldScalarType_eq_ok.mp h)
  · exact isMember_of_scalarType? hj (fieldScalarType_eq_ok.mp h)

theorem Atomic.parentheses {parts : List String} (h : ∀ part ∈ parts, Atomic part) :
    Atomic ("(" ++ String.intercalate " | " parts ++ ")") where
  solid := by
    simp only [String.toList_append, String.toList_intercalate]
    apply Solid.parentheses
    apply Nested.intercalate
    intro part hp
    obtain ⟨expression, he, rfl⟩ := List.mem_map.mp hp
    exact (h expression he).solid
  trimmed := by
    simp only [String.toList_append]
    exact Text.IsTrimmed.append_append (.of_forall (by decide) (Text.forall_mem_of_all rfl))
      (.of_forall (by decide) (Text.forall_mem_of_all rfl))

theorem IsMember.arrayOfUnion {parts : List String} (h : ∀ part ∈ parts, IsMember part) :
    IsMember ("(" ++ String.intercalate " | " parts ++ ")" ++ "[]") := by
  apply IsMember.array (.parentheses fun part hp => (h part hp).atomic)
  simpa using newline_not_mem_intercalate h

end Typescribe.Declaration
