import Typescribe.Text.Blank

/-!
This module contains lemmas about the letters and digits of ASCII.
-/

namespace Typescribe.Text

/-- What is checked of the characters of a text one by one, and not of all characters there are. -/
theorem forall_mem_of_all {P : Char → Prop} [DecidablePred P] {cs : List Char}
    (h : (cs.all fun c => decide (P c)) = true) : ∀ c ∈ cs, P c := by
  intro c hc
  exact of_decide_eq_true (List.all_eq_true.mp h c hc)

theorem forall_ascii {P : Char → Prop} (h : ∀ n ∈ List.range 128, P (Char.ofNat n)) {c : Char}
    (hc : c.toNat < 128) : P c := by
  have hP := h c.toNat (List.mem_range.mpr hc)
  rwa [Char.ofNat_toNat] at hP

theorem toNat_lt_of_isAlphanum {c : Char} (h : c.isAlphanum) : c.toNat < 128 := by
  have small {bound : UInt32} (hb : c.val ≤ bound) (ascii : bound.toNat < 128) : c.toNat < 128 :=
    Nat.lt_of_le_of_lt (UInt32.le_iff_toNat_le.mp hb) ascii
  rcases Bool.or_eq_true_iff.mp h with letter | digit
  · rcases Bool.or_eq_true_iff.mp letter with upper | lower
    · have range : c.val ≥ 'A'.val ∧ c.val ≤ 'Z'.val := of_decide_eq_true upper
      exact small range.2 (by decide)
    · have range : c.val ≤ 'z'.val := of_decide_eq_true (Bool.and_eq_true_iff.mp lower).2
      exact small range (by decide)
  · have range : c.val ≤ '9'.val := of_decide_eq_true (Bool.and_eq_true_iff.mp digit).2
    exact small range (by decide)

theorem forall_alphanum {P : Char → Prop}
    (h : ∀ n ∈ List.range 128, (Char.ofNat n).isAlphanum → P (Char.ofNat n)) {c : Char}
    (hc : c.isAlphanum) : P c :=
  forall_ascii (P := fun c => c.isAlphanum → P c) h (toNat_lt_of_isAlphanum hc) hc

theorem isAlphanum_toLower {c : Char} (h : c.isAlphanum) : c.toLower.isAlphanum :=
  forall_alphanum (P := fun c => c.toLower.isAlphanum) (by decide +kernel) h

theorem isUpper_or_isDigit_toUpper {c : Char} (h : c.isAlphanum) :
    c.toUpper.isUpper ∨ c.toUpper.isDigit :=
  forall_alphanum (P := fun c => c.toUpper.isUpper ∨ c.toUpper.isDigit) (by decide +kernel) h

theorem isAlphanum_of_isUpper {c : Char} (h : c.isUpper) : c.isAlphanum := by
  have letter : c.isAlpha := Bool.or_eq_true_iff.mpr (.inl h)
  exact Bool.or_eq_true_iff.mpr (.inl letter)

theorem isAlphanum_of_isDigit {c : Char} (h : c.isDigit) : c.isAlphanum := by
  simp [Char.isAlphanum, h]

end Typescribe.Text
