import Typescribe.Proofs.Text.Ascii
import Typescribe.Text.Hex

/-!
This module contains lemmas about the characters of hexadecimal numbers.
-/

namespace Typescribe.Text

theorem isAlphanum_hexDigit {n : Nat} (h : n < 16) : (hexDigit n).isAlphanum := by
  have all : ∀ m ∈ List.range 16, (hexDigit m).isAlphanum := by decide
  exact all n (List.mem_range.mpr h)

theorem isAlphanum_of_mem_hex {width n : Nat} : ∀ c ∈ hex width n, c.isAlphanum := by
  induction width generalizing n with
  | zero => simp [hex]
  | succ width ih =>
    intro c hc
    cases List.mem_append.mp hc with
    | inl hc => exact ih c hc
    | inr hc =>
      rw [List.mem_singleton.mp hc]
      exact isAlphanum_hexDigit (Nat.mod_lt n (by omega))

end Typescribe.Text
