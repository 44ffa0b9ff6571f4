import Typescribe.Declaration.Enum
import Typescribe.Proofs.Json.Data
import Typescribe.Proofs.Naming.Literal

/-!
This module contains the reading of the literal types of choices. The literal of a text has that
text as its value, a whole number stands as its digits, and the value of any other literal is a JSON
text of what the choice holds. Only whole numbers that are too long have no literal. It is assumed
that writing never runs out of stack, however deep a choice nests: a limit on the depth of recursion
is not modelled.
-/

namespace Typescribe.Declaration

/-- Neither a text nor a number: the literal of such a value holds its JSON text. -/
def IsStructured : Value → Prop
  | .text _ | .int _ | .float _ => False
  | _ => True

theorem choiceLiteral_int (n : Int) :
    choiceLiteral (.int n)
      = if Decimal.isPrintable n then .ok (toString n) else .error .tooLong := by
  rw [choiceLiteral, Json.write, Json.writeWhole]

theorem choiceLiteral_of_isStructured {value : Value} (h : IsStructured value) :
    choiceLiteral value = (Json.write value).map Naming.stringLiteral := by
  cases value with
  | text | int | float => cases h
  | _ => rfl

theorem exists_choiceLiteral_of_isExact {value : Value} (h : IsStructured value)
    (exact : Json.IsExact value) :
    ∃ json, choiceLiteral value = .ok (Naming.stringLiteral json)
      ∧ Naming.literalValue? (Naming.stringLiteral json) = some json
      ∧ Json.read json = .ok value := by
  obtain ⟨json, written, reads⟩ := Json.isWritten_of_isExact exact
  refine ⟨json, ?_, Naming.literalValue?_stringLiteral json, Json.read_of_readsAs reads⟩
  rw [choiceLiteral_of_isStructured h, written]
  rfl

theorem choiceLiteral_of_not_isExact {value : Value} (h : IsStructured value)
    (data : Json.IsData Json.IsWhole value) (long : ¬Json.IsExact value) :
    choiceLiteral value = .error .tooLong := by
  rw [choiceLiteral_of_isStructured h]
  cases written : Json.write value with
  | ok json => exact absurd (Json.isExact_of_write_eq_ok data written) long
  | error e =>
    rw [Json.eq_tooLong_of_write_eq_error data written]
    rfl

theorem choiceLiteral_int_inj {m n : Int} (printable : Decimal.isPrintable m)
    (h : choiceLiteral (.int m) = choiceLiteral (.int n)) : m = n := by
  rw [choiceLiteral_int, choiceLiteral_int, if_pos printable] at h
  split at h
  · next other =>
    have read := Json.read_of_readsAs (Json.readsAs_int printable)
    rw [Except.ok.inj h, Json.read_of_readsAs (Json.readsAs_int other)] at read
    cases read
    rfl
  · cases h

/-- A number does not start with a quote. -/
theorem choiceLiteral_text_ne_int (s : String) (n : Int) :
    choiceLiteral (.text s) ≠ choiceLiteral (.int n) := by
  intro h
  rw [choiceLiteral_int, choiceLiteral] at h
  split at h
  · next printable =>
    obtain ⟨c, cs, digits, isDigit⟩ := Json.exists_toDigits n.natAbs
    have same := congrArg String.toList (Except.ok.inj h)
    rw [Naming.stringLiteral, String.toList_ofList, Decimal.toList_toString, digits] at same
    split at same
    · cases same
      cases isDigit
    · cases same
  · cases h

/--
What is read from the literal of a choice is what the choice holds: the text itself, the digits of
a whole number, or a JSON text of other data. Whole numbers that are too long are the only data
without a literal. So no two texts share a literal, no two whole numbers, and no text and number.
-/
theorem choiceLiteral_readable :
    (∀ s, choiceLiteral (.text s) = .ok (Naming.stringLiteral s)
        ∧ Naming.literalValue? (Naming.stringLiteral s) = some s)
      ∧ (∀ n, choiceLiteral (.int n)
        = if Decimal.isPrintable n then .ok (toString n) else .error .tooLong)
      ∧ (∀ value, IsStructured value → Json.IsData Json.IsWhole value →
        (Json.IsExact value → ∃ json, choiceLiteral value = .ok (Naming.stringLiteral json)
          ∧ Naming.literalValue? (Naming.stringLiteral json) = some json
          ∧ Json.read json = .ok value)
        ∧ (¬Json.IsExact value → choiceLiteral value = .error .tooLong))
      ∧ (∀ s t, choiceLiteral (.text s) = choiceLiteral (.text t) → s = t)
      ∧ (∀ m n, Decimal.isPrintable m → choiceLiteral (.int m) = choiceLiteral (.int n) → m = n)
      ∧ ∀ s n, choiceLiteral (.text s) ≠ choiceLiteral (.int n) := by
  refine ⟨?_, choiceLiteral_int, ?_, ?_, ?_, choiceLiteral_text_ne_int⟩
  · intro s
    exact ⟨rfl, Naming.literalValue?_stringLiteral s⟩
  · intro value structured data
    exact ⟨exists_choiceLiteral_of_isExact structured,
      choiceLiteral_of_not_isExact structured data⟩
  · intro s t same
    exact Naming.stringLiteral_injective (Except.ok.inj same)
  · intro m n printable same
    exact choiceLiteral_int_inj printable same

/-- A mapping whose name and text are escaped by both encodings, and a number that is too long. -/
theorem choiceLiteral_readable_nested :
    Json.IsExact (.mapping [(.text "a'\\", .list [.int (-7), .text "\n😀"])])
      ∧ (∃ json, choiceLiteral (.mapping [(.text "a'\\", .list [.int (-7), .text "\n😀"])])
          = .ok (Naming.stringLiteral json)
        ∧ json = "\x7b\"a'\\\\\": [-7, \"\\n\\ud83d\\ude00\"]\x7d"
        ∧ Naming.literalValue? (Naming.stringLiteral json) = some json
        ∧ Json.read json = .ok (.mapping [(.text "a'\\", .list [.int (-7), .text "\n😀"])]))
      ∧ ¬Json.IsExact (.list [.int (10 ^ Decimal.maxDigits)])
      ∧ choiceLiteral (.list [.int (10 ^ Decimal.maxDigits)]) = .error .tooLong
      ∧ choiceLiteral (.int (-7)) ≠ choiceLiteral (.int 7) := by
  have printable : Decimal.isPrintable (-7) := by decide +kernel
  have names : ([("a'\\", Value.list [.int (-7), .text "\n😀"])].map (·.1)).Nodup := by decide
  have data : Json.IsData Json.IsWhole
      (.mapping [(.text "a'\\", .list [.int (-7), .text "\n😀"])]) :=
    .mapping names
      (List.forall_mem_singleton.mpr (.list (by simpa using ⟨.number trivial, .text _⟩)))
  have exact : Json.IsExact (.mapping [(.text "a'\\", .list [.int (-7), .text "\n😀"])]) :=
    .mapping names
      (List.forall_mem_singleton.mpr (.list (by simpa using ⟨.int printable, .text _⟩)))
  have written : Json.write (.mapping [(.text "a'\\", .list [.int (-7), .text "\n😀"])])
      = .ok "\x7b\"a'\\\\\": [-7, \"\\n\\ud83d\\ude00\"]\x7d" := by
    decide +kernel
  have longData : Json.IsData Json.IsWhole (.list [.int (10 ^ Decimal.maxDigits)]) :=
    .list (List.forall_mem_singleton.mpr (.number trivial))
  have long : ¬Json.IsExact (.list [.int (10 ^ Decimal.maxDigits)]) := by
    intro exact
    cases exact with
    | list items =>
      cases items _ List.mem_cons_self with
      | int printable => exact Decimal.not_isPrintable_pow_maxDigits printable
  obtain ⟨-, -, structured, -, whole, -⟩ := choiceLiteral_readable
  obtain ⟨json, literal, value, read⟩ := (structured _ (by trivial) data).1 exact
  have same : json = "\x7b\"a'\\\\\": [-7, \"\\n\\ud83d\\ude00\"]\x7d" := by
    rw [choiceLiteral_of_isStructured (by trivial), written] at literal
    exact (Naming.stringLiteral_injective (Except.ok.inj literal)).symm
  exact ⟨exact, ⟨json, literal, same, value, read⟩, long,
    (structured _ (by trivial) longData).2 long,
    fun same => absurd (whole _ _ printable same) (by decide)⟩

theorem choiceLiteral_tooLong :
    choiceLiteral (.int (10 ^ Decimal.maxDigits)) = .error .tooLong := by
  rw [choiceLiteral_int, if_neg Decimal.not_isPrintable_pow_maxDigits]

end Typescribe.Declaration
