import Typescribe.Declaration.Member
import Typescribe.Proofs.Declaration.Relation

/-!
This module contains the types of fields as unions: what the type of a field is built from, and that
the members of the union are just these parts.
-/

namespace Typescribe.Declaration

variable {σ : Type}

def arrayOf (names : List String) : String :=
  (if 1 < names.length then "(" ++ String.intercalate " | " names ++ ")"
    else String.intercalate " | " names) ++ "[]"

def manySide (relation : Relation) (sides : RelationMeta) : String :=
  match sides.manyCollection with
  | some many => if many ≠ "" then many else relation.collection
  | none => relation.collection

/-- No relation decides the type of the field. -/
def Unrelated (schema : Schema) (collection : Collection) (field : Field) : Prop :=
  if field.isAlias then
    schema.reverseRelationFor? (some collection.collection) (some field.field) = none
  else
    schema.relationFor? (some collection.collection) (some field.field) = none

/--
Where the type of a field can come from: the interfaces that it refers to, and the parts that it is
built from. The choices are looked up in the given session.
-/
inductive Composed (config : Config) (schema : Schema) (choices : ChoiceSource σ)
    (collection : Collection) (field : Field) (s : Session σ) :
    List String → List String → Prop where
  | toOne {relation : Relation} {names : List String} {key : String}
    (column : field.isAlias = false)
    (declared : schema.relationFor? (some collection.collection) (some field.field) = some relation)
    (single : relation.isToMany = false)
    (targets : targetNames schema field relation = .ok names)
    (bare : keyType config.jsonType field relation names = .ok key) :
    Composed config schema choices collection field s names (names ++ [key])
  | toMany {relation : Relation} {names : List String} {key : String}
    (column : field.isAlias = false)
    (declared : schema.relationFor? (some collection.collection) (some field.field) = some relation)
    (several : relation.isToMany = true)
    (targets : targetNames schema field relation = .ok names)
    (bare : keyType config.jsonType field relation names = .ok key) :
    Composed config schema choices collection field s names [arrayOf names, key ++ "[]"]
  | reverse {relation : Relation} {sides : RelationMeta} {name : String}
    (shown : field.isAlias = true)
    (declared : schema.reverseRelationFor? (some collection.collection) (some field.field)
      = some (relation, sides))
    (target : targetName schema field (manySide relation sides) = .ok name) :
    Composed config schema choices collection field s [name] [name ++ "[]"]
  | oneChoice {definition : FieldDefinition} {literals : List String} {t : Session σ}
    (plain : Unrelated schema collection field)
    (looked : Step.Yields (choices.safeLookup collection.collection field.field) s
      (some definition) t)
    (given : definition.choices ≠ []) (single : definition.isMultiple = false)
    (written : List.Forall₂ (fun choice literal => choiceLiteral choice.value = .ok literal)
      definition.choices literals) :
    Composed config schema choices collection field s [] literals
  | manyChoices {definition : FieldDefinition} {literals : List String} {t : Session σ}
    (plain : Unrelated schema collection field)
    (looked : Step.Yields (choices.safeLookup collection.collection field.field) s
      (some definition) t)
    (given : definition.choices ≠ []) (several : definition.isMultiple = true)
    (written : List.Forall₂ (fun choice literal => choiceLiteral choice.value = .ok literal)
      definition.choices literals) :
    Composed config schema choices collection field s []
      ["(" ++ String.intercalate " | " literals ++ ")[]"]
  | scalar {definition : Option FieldDefinition} {type : String} {t : Session σ}
    (plain : Unrelated schema collection field)
    (looked : Step.Yields (choices.safeLookup collection.collection field.field) s definition t)
    (empty : ∀ d, definition = some d → d.choices = [])
    (tagged : scalarType? config.jsonType field.typeTag = some type) :
    Composed config schema choices collection field s [] [type]

section Inversion

variable {config : Config} {schema : Schema} {choices : ChoiceSource σ} {collection : Collection}
  {field : Field} {s : Session σ}

theorem composed_of_relationType? {type : TypeRef} (column : field.isAlias = false)
    (h : relationType? config.jsonType schema collection field = .ok (some type)) :
    ∃ parts, Composed config schema choices collection field s type.references parts
      ∧ type.expression = String.intercalate " | " parts := by
  unfold relationType? at h
  split at h
  · cases h
  · next relation declared =>
    obtain ⟨names, targets, h⟩ := bind_eq_ok.mp h
    obtain ⟨key, bare, h⟩ := bind_eq_ok.mp h
    simp only at h
    split at h
    · next several =>
      cases h
      refine ⟨_, .toMany column declared several targets bare, ?_⟩
      have between : "[] | " = "[]" ++ " | " := rfl
      rw [arrayOf, String.intercalate_cons_cons, String.intercalate_singleton, between]
      simp only [String.append_assoc]
    · next single =>
      cases h
      refine ⟨_, .toOne column declared (by simpa using single) targets bare, ?_⟩
      rw [String.intercalate_append_of_ne_nil (targetNames_ne_nil targets) (by simp),
        String.intercalate_singleton]

theorem composed_of_aliasType? {type : TypeRef} (shown : field.isAlias = true)
    (h : aliasType? schema collection field = .ok (some type)) :
    ∃ parts, Composed config schema choices collection field s type.references parts
      ∧ type.expression = String.intercalate " | " parts := by
  unfold aliasType? at h
  split at h
  · cases h
  · next relation sides declared =>
    obtain ⟨name, target, h⟩ := bind_eq_ok.mp h
    cases h
    exact ⟨_, .reverse shown declared target, by rw [String.intercalate_singleton]⟩

theorem composed_of_enumType? {definition : Option FieldDefinition} {type : String} {t : Session σ}
    (plain : Unrelated schema collection field)
    (looked : Step.Yields (choices.safeLookup collection.collection field.field) s definition t)
    (h : enumType? definition = .ok (some type)) :
    ∃ parts, Composed config schema choices collection field s [] parts
      ∧ type = String.intercalate " | " parts := by
  unfold enumType? at h
  split at h
  · cases h
  · next definition =>
    split at h
    · cases h
    · next given =>
      obtain ⟨literals, written, h⟩ := bind_eq_ok.mp h
      have given : definition.choices ≠ [] := by simpa using given
      have written := forall₂_of_mapM_eq_ok written
      cases h
      split
      · next several =>
        exact ⟨_, .manyChoices plain looked given several written,
          by rw [String.intercalate_singleton]⟩
      · next single =>
        exact ⟨_, .oneChoice plain looked given (by simpa using single) written, rfl⟩

theorem noChoices_of_enumType? {definition : Option FieldDefinition}
    (h : enumType? definition = .ok none) : ∀ d, definition = some d → d.choices = [] := by
  rintro d rfl
  unfold enumType? at h
  simp only at h
  split at h
  · next empty => simpa using empty
  · obtain ⟨_, -, h⟩ := bind_eq_ok.mp h
    cases h

theorem unrelated_of_ok_none
    (h : (if field.isAlias then aliasType? schema collection field
      else relationType? config.jsonType schema collection field) = .ok none) :
    Unrelated schema collection field := by
  unfold Unrelated
  split
  · next shown =>
    rw [if_pos shown, aliasType?] at h
    split at h
    · assumption
    · obtain ⟨_, -, h⟩ := bind_eq_ok.mp h
      cases h
  · next column =>
    rw [if_neg column, relationType?] at h
    split at h
    · assumption
    · obtain ⟨_, -, h⟩ := bind_eq_ok.mp h
      obtain ⟨_, -, h⟩ := bind_eq_ok.mp h
      simp only at h
      split at h
      · cases h
      · cases h

theorem composed_of_resolveField {type : TypeRef} {t : Session σ}
    (h : Step.Yields (resolveField config schema choices collection field) s (.ok type) t) :
    ∃ parts, Composed config schema choices collection field s type.references parts
      ∧ type.expression = String.intercalate " | " parts := by
  unfold resolveField at h
  simp only at h
  split at h
  · obtain ⟨h, -⟩ := Step.yields_pure.mp h
    cases h
  · next related =>
    obtain ⟨h, -⟩ := Step.yields_pure.mp h
    cases h
    split at related
    · next shown => exact composed_of_aliasType? shown related
    · next column => exact composed_of_relationType? (by simpa using column) related
  · next related =>
    -- Without a relation, the choices decide, and the scalar type only if there are none.
    have plain := unrelated_of_ok_none related
    obtain ⟨definition, u, looked, h⟩ := Step.yields_bind.mp h
    split at h
    · obtain ⟨_, _, -, h⟩ := Step.yields_bind.mp h
      obtain ⟨h, -⟩ := Step.yields_pure.mp h
      cases h
    · next enum =>
      obtain ⟨h, -⟩ := Step.yields_pure.mp h
      cases h
      exact composed_of_enumType? plain looked enum
    · next enum =>
      obtain ⟨h, -⟩ := Step.yields_pure.mp h
      obtain ⟨scalar, tagged, h⟩ := map_eq_ok.mp h
      cases h
      exact ⟨_, .scalar plain looked (noChoices_of_enumType? enum)
        (fieldScalarType_eq_ok.mp tagged), by rw [String.intercalate_singleton]⟩

theorem isMember_arrayOf {names : List String} (nonempty : names ≠ [])
    (h : ∀ name ∈ names, IsMember name) : IsMember (arrayOf names) := by
  unfold arrayOf
  split
  · exact .arrayOfUnion h
  · next short =>
    -- There is a name, and no more than one: the array is written without parentheses.
    obtain ⟨name, rfl⟩ : ∃ name, names = [name] := by
      rw [← List.length_eq_one_iff]
      have := List.length_pos_iff.mpr nonempty
      omega
    rw [String.intercalate_singleton]
    have single := h name List.mem_cons_self
    exact .array single.atomic single.line

theorem isMember_of_composed {references parts : List String} (hj : IsPlainJson config.jsonType)
    (h : Composed config schema choices collection field s references parts) :
    parts ≠ [] ∧ ∀ part ∈ parts, IsMember part := by
  cases h with
  | toOne column declared single targets bare =>
    have names := isMember_of_mem_targetNames targets
    refine ⟨by simp, fun part hp => ?_⟩
    cases List.mem_append.mp hp with
    | inl hp => exact names part hp
    | inr hp => exact List.mem_singleton.mp hp ▸ isMember_of_keyType hj names bare
  | toMany column declared several targets bare =>
    have names := isMember_of_mem_targetNames targets
    have item := isMember_arrayOf (targetNames_ne_nil targets) names
    have key := isMember_of_keyType hj names bare
    refine ⟨by simp, fun part hp => ?_⟩
    rcases List.mem_cons.mp hp with hp | hp
    · exact hp ▸ item
    · exact List.mem_singleton.mp hp ▸ .array key.atomic key.line
  | reverse shown declared target =>
    have name := isMember_of_targetName target
    refine ⟨by simp, fun part hp => ?_⟩
    exact List.mem_singleton.mp hp ▸ .array name.atomic name.line
  | oneChoice plain looked given single written =>
    refine ⟨?_, fun part hp => ?_⟩
    · rintro rfl
      exact given (List.forall₂_nil_right_iff.mp written)
    · obtain ⟨choice, -, literal⟩ := exists_of_mem_right written hp
      exact .choiceLiteral literal
  | manyChoices plain looked given several written =>
    have item := IsMember.arrayOfUnion fun literal hl => by
      obtain ⟨choice, -, written⟩ := exists_of_mem_right written hl
      exact IsMember.choiceLiteral written
    refine ⟨by simp, fun part hp => ?_⟩
    rw [List.mem_singleton.mp hp]
    simpa [String.append_assoc] using item
  | scalar plain looked empty tagged =>
    refine ⟨by simp, fun part hp => ?_⟩
    exact List.mem_singleton.mp hp ▸ isMember_of_scalarType? hj tagged

theorem isUnion_of_resolveField {type : TypeRef} {t : Session σ} (hj : IsPlainJson config.jsonType)
    (h : Step.Yields (resolveField config schema choices collection field) s (.ok type) t) :
    ∃ parts, Composed config schema choices collection field s type.references parts
      ∧ IsUnion parts type.expression := by
  obtain ⟨parts, composed, expression⟩ := composed_of_resolveField h
  obtain ⟨nonempty, members⟩ := isMember_of_composed hj composed
  exact ⟨parts, composed, nonempty, members, expression⟩

theorem unionMembers_resolveField {type : TypeRef} {t : Session σ}
    (hj : config.jsonType = "any" ∨ config.jsonType = "unknown")
    (h : Step.Yields (resolveField config schema choices collection field) s (.ok type) t) :
    type.expression ≠ ""
      ∧ Composed config schema choices collection field s type.references
          (unionMembers type.expression)
      ∧ type.expression = String.intercalate " | " (unionMembers type.expression)
      ∧ "null" ∉ unionMembers type.expression
      ∧ unionMembers (withNull type.expression) = unionMembers type.expression ++ ["null"]
      ∧ withNull (withNull type.expression) = withNull type.expression := by
  obtain ⟨parts, composed, union⟩ := isUnion_of_resolveField hj h
  rw [union.unionMembers_eq]
  exact ⟨union.ne_empty, composed, union.eq, union.notNull, union.unionMembers_withNull,
    union.withNull_withNull⟩

end Inversion

/-- Choices that hold quotes, separators, open brackets, a line break, and the word `null`. -/
def hostileDefinition : FieldDefinition where
  collection := "posts"
  field := "status"
  choices := [⟨.text "null", none⟩, ⟨.text "a' | 'b", none⟩, ⟨.text "\\", none⟩,
    ⟨.text "[(<\n", none⟩, ⟨.null, none⟩]

theorem unionMembers_hostileDefinition :
    let field : Field := { collection := "posts", field := "status" }
    let type := "'null' | 'a\\' | \\'b' | '\\\\' | '[(<\\n' | 'null'"
    let session : Session Unit := ⟨(), []⟩
    Step.Yields (resolveField {} {} (.ofDefinitions [hostileDefinition]) ⟨"posts", false, []⟩ field)
        session (.ok ⟨type, []⟩) session
      ∧ type = String.intercalate " | " (unionMembers type)
      ∧ unionMembers (withNull type) = unionMembers type ++ ["null"] := by
  intro field type session
  have run : Step.Yields
      (resolveField {} {} (.ofDefinitions [hostileDefinition]) ⟨"posts", false, []⟩ field)
      session (.ok ⟨type, []⟩) session := rfl
  obtain ⟨-, -, expression, -, more, -⟩ := unionMembers_resolveField (.inl rfl) run
  exact ⟨run, expression, more⟩

end Typescribe.Declaration
