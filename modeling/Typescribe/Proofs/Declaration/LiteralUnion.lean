import Typescribe.Proofs.Declaration.Atomic
import Typescribe.Proofs.Declaration.Choice
import Typescribe.Proofs.Decimal.Numeral
import Typescribe.Proofs.Snapshot.ChoiceData

/-!
This module contains the members of the unions of literal types. A choice that was read from a
document or a text always has a literal: a text in single quotes or a numeral, unless its value is
a number that is not finite.
-/

namespace Typescribe.Declaration

/-- A text in single quotes, or a numeral. -/
def IsLiteral (member : String) : Prop :=
  (∃ s, Naming.literalValue? member = some s) ∨ Decimal.IsNumeral member.toList

/-- Not a number beyond the finite ones; what other data holds inside does not matter. -/
def IsFiniteValue : Value → Prop
  | .float x => Decimal.IsFinite x
  | _ => True

theorem isLiteral_stringLiteral (s : String) : IsLiteral (Naming.stringLiteral s) :=
  .inl ⟨s, Naming.literalValue?_stringLiteral s⟩

theorem literalValue?_of_isNumeric {text : String} (h : ∀ c ∈ text.toList, Decimal.isNumeric c) :
    Naming.literalValue? text = none := by
  unfold Naming.literalValue?
  split
  · next rest same =>
    rw [same] at h
    exact absurd (h '\'' List.mem_cons_self) (by decide)
  · rfl

theorem isLiteral_json_text_iff (x : Float) :
    IsLiteral (Decimal.json.text x) ↔ Decimal.IsFinite x := by
  unfold IsLiteral
  rw [literalValue?_of_isNumeric Decimal.isNumeric_of_mem_json_text,
    Decimal.isNumeral_json_text_iff]
  simp

theorem isLiteral_choiceLiteral_iff {value : Value} {literal : String}
    (h : choiceLiteral value = .ok literal) : IsLiteral literal ↔ IsFiniteValue value := by
  cases value with
  | text s =>
    cases h
    exact iff_of_true (isLiteral_stringLiteral s) trivial
  | int n =>
    rw [choiceLiteral_int] at h
    split at h
    · cases h
      exact iff_of_true (.inr (Decimal.isNumeral_toString n)) trivial
    · cases h
  | float x =>
    rw [choiceLiteral, Json.write] at h
    cases h
    exact isLiteral_json_text_iff x
  | _ =>
    rw [choiceLiteral_of_isStructured (by trivial)] at h
    obtain ⟨text, -, rfl⟩ := map_eq_ok.mp h
    exact iff_of_true (isLiteral_stringLiteral text) trivial

theorem exists_choiceLiteral {value : Value} (h : Json.IsData Json.IsReadNumber value) :
    ∃ literal, choiceLiteral value = .ok literal := by
  obtain ⟨text, written⟩ := Json.exists_write_of_isData h
  cases value with
  | text s => exact ⟨_, rfl⟩
  | int | float => exact ⟨text, written⟩
  | _ =>
    rw [choiceLiteral_of_isStructured (by trivial), written]
    exact ⟨_, rfl⟩

/--
A field whose choices are data has the union of their literals as its type, perhaps as a list of
it. The members of the union are texts in quotes and numerals, save those of numbers that are not
finite. As in `choiceLiteral_readable`, data can nest to any depth.
-/
theorem enumType?_isLiteral_iff {definition : FieldDefinition}
    (data : ∀ choice ∈ definition.choices, Json.IsData Json.IsReadNumber choice.value) :
    (definition.choices = [] ∧ enumType? (some definition) = .ok none)
      ∨ ∃ union, enumType? (some definition)
            = .ok (some (if definition.isMultiple then "(" ++ union ++ ")[]" else union))
          ∧ union = String.intercalate " | " (unionMembers union)
          ∧ List.Forall₂ (fun choice member => IsLiteral member ↔ IsFiniteValue choice.value)
            definition.choices (unionMembers union) := by
  by_cases empty : definition.choices = []
  · refine .inl ⟨empty, ?_⟩
    rw [enumType?]
    simp [empty]
  · have literal := fun choice hc => exists_choiceLiteral (data choice hc)
    obtain ⟨literals, written⟩ := exists_mapM_eq_ok literal
    have related := forall₂_of_mapM_eq_ok written
    have union : IsUnion literals (String.intercalate " | " literals) := by
      refine ⟨?_, fun literal hl => ?_, rfl⟩
      · rintro rfl
        exact empty (List.forall₂_nil_right_iff.mp related)
      · obtain ⟨choice, -, literal⟩ := exists_of_mem_right related hl
        exact .choiceLiteral literal
    refine .inr ⟨String.intercalate " | " literals, ?_, ?_, ?_⟩
    · rw [enumType?]
      simp only [List.isEmpty_iff, empty, if_false, written]
      rfl
    · rw [union.unionMembers_eq]
    · rw [union.unionMembers_eq]
      exact related.imp fun _ _ => isLiteral_choiceLiteral_iff

/-- The definition that is read from a text of options, with a number too large for a double. -/
theorem enumType?_isLiteral_readOptions :
    ∃ definition, Snapshot.definitionOf (.text "posts") (.text "rank") .null
          (.text "\x7b\"choices\": [\"it's\", -3, 1.5e300, 1e400, [NaN]]\x7d") = .ok definition
        ∧ (∀ choice ∈ definition.choices, Json.IsData Json.IsReadNumber choice.value)
        ∧ enumType? (some definition) = .ok (some "'it\\'s' | -3 | 1.5e+300 | Infinity | '[NaN]'")
        ∧ List.Forall₂ (fun choice member => IsLiteral member ↔ IsFiniteValue choice.value)
          definition.choices ["'it\\'s'", "-3", "1.5e+300", "Infinity", "'[NaN]'"] := by
  have found : (Snapshot.definitionOf (.text "posts") (.text "rank") .null
      (.text "\x7b\"choices\": [\"it's\", -3, 1.5e300, 1e400, [NaN]]\x7d")).toOption.map
        (fun definition => (definition.isMultiple, enumType? (some definition)))
      = some (false, .ok (some "'it\\'s' | -3 | 1.5e+300 | Infinity | '[NaN]'")) := by
    decide +kernel
  have members : unionMembers "'it\\'s' | -3 | 1.5e+300 | Infinity | '[NaN]'"
      = ["'it\\'s'", "-3", "1.5e+300", "Infinity", "'[NaN]'"] := by
    decide +kernel
  cases defined : Snapshot.definitionOf (.text "posts") (.text "rank") .null
      (.text "\x7b\"choices\": [\"it's\", -3, 1.5e300, 1e400, [NaN]]\x7d") with
  | error =>
    rw [defined] at found
    cases found
  | ok definition =>
    rw [defined] at found
    obtain ⟨single, type⟩ := Prod.mk.inj (Option.some.inj found)
    have data := Snapshot.isData_of_definitionOf (.text _) defined
    refine ⟨definition, rfl, data, type, ?_⟩
    rcases enumType?_isLiteral_iff data with ⟨-, none⟩ | ⟨union, typed, -, literals⟩
    · rw [type] at none
      cases none
    · rw [type, single] at typed
      cases typed
      exact members ▸ literals

/-- A number that is not finite stands in the union as a word, which is no literal. -/
theorem not_isLiteral_infinity :
    enumType? (some
        { collection := "posts", field := "rank", choices := [⟨.float Decimal.infinity, none⟩] })
      = .ok (some "Infinity") ∧ unionMembers "Infinity" = ["Infinity"] ∧ ¬IsLiteral "Infinity" := by
  have text : Decimal.json.text Decimal.infinity = "Infinity" := by decide +kernel
  have endless : ¬Decimal.IsFinite Decimal.infinity := by
    unfold Decimal.IsFinite
    decide +kernel
  refine ⟨by decide +kernel, by decide +kernel, ?_⟩
  rw [← text, isLiteral_json_text_iff]
  exact endless

end Typescribe.Declaration
