import Typescribe.Decimal.Layout
import Typescribe.Decimal.Whole
import Typescribe.Proofs.Text.Ascii

/-!
This module contains the characters of written numbers.
-/

namespace Typescribe.Decimal

/-- The characters of written numbers and of the words for what is no finite number. -/
def isNumeric (c : Char) : Bool :=
  c.isDigit || ['.', '-', '+', 'e', 'N', 'a', 'I', 'n', 'f', 'i', 't', 'y'].contains c

theorem isNumeric_of_isDigit {c : Char} (h : c.isDigit) : isNumeric c := by
  simp [isNumeric, h]

theorem isNumeric_of_mem_repr {n : Nat} : ∀ c ∈ (Nat.repr n).toList, isNumeric c := by
  intro c hc
  rw [Nat.toList_repr] at hc
  exact isNumeric_of_isDigit (Nat.isDigit_of_mem_toDigits (by decide) (by decide) hc)

theorem isNumeric_of_mem_replicate {n : Nat} : ∀ c ∈ List.replicate n '0', isNumeric c := by
  intro c hc
  rw [List.eq_of_mem_replicate hc]
  decide

theorem isNumeric_of_mem_append {front back : List Char} (hf : ∀ c ∈ front, isNumeric c)
    (hb : ∀ c ∈ back, isNumeric c) : ∀ c ∈ front ++ back, isNumeric c := by
  intro c hc
  cases List.mem_append.mp hc with
  | inl hc => exact hf c hc
  | inr hc => exact hb c hc

theorem isNumeric_of_mem_exponentText {width : Nat} {exponent : Int} :
    ∀ c ∈ (exponentText width exponent).toList, isNumeric c := by
  unfold exponentText padded
  simp only [String.toList_append, String.toList_ofList]
  apply isNumeric_of_mem_append
  · apply isNumeric_of_mem_append
    · exact Text.forall_mem_of_all rfl
    · split <;> exact Text.forall_mem_of_all rfl
  · exact isNumeric_of_mem_append isNumeric_of_mem_replicate isNumeric_of_mem_repr

theorem isNumeric_of_mem_positive {layout : Layout} {d : Digits} :
    ∀ c ∈ (layout.positive d).toList, isNumeric c := by
  have digits := isNumeric_of_mem_repr (n := d.digits)
  unfold Layout.positive
  simp only
  split
  · rw [String.toList_append]
    refine isNumeric_of_mem_append ?_ isNumeric_of_mem_exponentText
    split
    · next first second rest hd =>
      rw [hd] at digits
      intro c hc
      simp only [String.toList_ofList, List.mem_cons] at hc
      rcases hc with hc | hc | hc
      · exact digits c (by simp [hc])
      · rw [hc]; decide
      · exact digits c (by simp [hc])
    · simpa using digits
  · split
    · simp only [String.toList_append, String.toList_ofList]
      exact isNumeric_of_mem_append (Text.forall_mem_of_all rfl)
        (isNumeric_of_mem_append isNumeric_of_mem_replicate digits)
    · split
      · simp only [String.toList_append, String.toList_ofList]
        exact isNumeric_of_mem_append
          (isNumeric_of_mem_append digits isNumeric_of_mem_replicate) (Text.forall_mem_of_all rfl)
      · simp only [String.toList_append, String.toList_ofList]
        have point : ∀ c ∈ ".".toList, isNumeric c := Text.forall_mem_of_all rfl
        refine isNumeric_of_mem_append (isNumeric_of_mem_append ?_ point) ?_
        · exact fun c hc => digits c (List.mem_of_mem_take hc)
        · exact fun c hc => digits c (List.mem_of_mem_drop hc)

theorem isNumeric_of_mem_json_text {x : Float} : ∀ c ∈ (json.text x).toList, isNumeric c := by
  have sign : ∀ c ∈ (if signBit ≤ x.toBits.toNat then "-" else "").toList, isNumeric c := by
    split <;> exact Text.forall_mem_of_all rfl
  unfold Layout.text
  simp only
  split
  · rw [String.toList_append]
    exact isNumeric_of_mem_append sign (Text.forall_mem_of_all rfl)
  · split
    · rw [String.toList_append]
      exact isNumeric_of_mem_append sign isNumeric_of_mem_positive
    · split
      · rw [String.toList_append]
        exact isNumeric_of_mem_append sign (Text.forall_mem_of_all rfl)
      · exact Text.forall_mem_of_all rfl

theorem positive_ne_empty (layout : Layout) (d : Digits) : layout.positive d ≠ "" := by
  unfold Layout.positive
  simp only [ne_eq]
  repeat' split
  all_goals simp [exponentText]

theorem json_text_ne_empty (x : Float) : json.text x ≠ "" := by
  unfold Layout.text
  simp only [ne_eq]
  repeat' split
  all_goals simp [positive_ne_empty, json]

theorem isNumeric_of_mem_toString {n : Int} : ∀ c ∈ (toString n).toList, isNumeric c := by
  rw [show toString n = n.repr from rfl, Int.repr_eq_if]
  split
  · exact isNumeric_of_mem_repr
  · rw [String.toList_append]
    exact isNumeric_of_mem_append (Text.forall_mem_of_all rfl) isNumeric_of_mem_repr

theorem toString_ne_empty (n : Int) : toString n ≠ "" := by
  rw [show toString n = n.repr from rfl, Int.repr_eq_if]
  split
  · exact Nat.repr_ne_empty
  · simp

end Typescribe.Decimal
