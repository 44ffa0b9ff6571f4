import Mathlib.Algebra.Group.Int.Defs
import Mathlib.Algebra.Group.Nat.Defs
import Typescribe.Decimal.Reading
import Typescribe.Decimal.Whole
import Typescribe.Proofs.Text.Ascii

/-!
This module contains the decimal digits of a natural number: reading them gives the number back, and
they start with a zero only if the number is zero.
-/

namespace Typescribe.Decimal

theorem ofDigits_toDigits (n : Nat) : ofDigits (Nat.toDigits 10 n) = n := by
  have same : ofDigits (Nat.toDigits 10 n) = Nat.ofDigitChars 10 (Nat.toDigits 10 n) 0 := by
    rw [Nat.ofDigitChars_eq_foldl, ofDigits]
    congr
    funext value c
    rw [Nat.mul_comm]
    rfl
  rw [same, Nat.ofDigitChars_ten_toDigits]

theorem isDigit_of_mem_toDigits {n : Nat} : ∀ c ∈ Nat.toDigits 10 n, c.isDigit :=
  fun _ => Nat.isDigit_of_mem_toDigits (by decide) (by decide)

theorem exists_toDigits_of_pos {n : Nat} (h : 0 < n) :
    ∃ c cs, Nat.toDigits 10 n = c :: cs ∧ c ≠ '0' := by
  induction n using Nat.strongRecOn with
  | ind n ih =>
    by_cases small : n < 10
    · have digits : ∀ m ∈ List.range 10, 0 < m → Nat.digitChar m ≠ '0' := by decide
      exact ⟨_, [], Nat.toDigits_of_lt_base small, digits n (List.mem_range.mpr small) h⟩
    · obtain ⟨c, cs, front, notZero⟩ := ih (n / 10) (by omega) (by omega)
      refine ⟨c, cs ++ [(n % 10).digitChar], ?_, notZero⟩
      rw [Nat.toDigits_of_base_le (by decide) (by omega), front, List.cons_append]

theorem length_toDigits_le_of_isPrintable {n : Int} (h : isPrintable n) :
    (Nat.toDigits 10 n.natAbs).length ≤ maxDigits := by
  have positive : 0 < maxDigits := by decide
  unfold isPrintable at h
  -- The bound is a number that must not be computed.
  generalize maxDigits = limit at *
  exact (Nat.length_toDigits_le_iff (by decide) positive).mpr (of_decide_eq_true h)

theorem digitValue_lt {c : Char} (h : c.isDigit) : c.toNat - 0x30 < 10 :=
  Text.forall_alphanum (P := fun c => c.isDigit → c.toNat - 0x30 < 10) (by decide +kernel)
    (Text.isAlphanum_of_isDigit h) h

theorem ofDigits_lt {cs : List Char} (h : ∀ c ∈ cs, c.isDigit) : ofDigits cs < 10 ^ cs.length := by
  have further (n : Nat) : cs.foldl (fun n c => n * 10 + (c.toNat - 0x30)) n
      < (n + 1) * 10 ^ cs.length := by
    induction cs generalizing n with
    | nil => simp
    | cons c cs ih =>
      have digit := digitValue_lt (h c List.mem_cons_self)
      have others := ih (fun d hd => h d (List.mem_cons_of_mem _ hd)) (n * 10 + (c.toNat - 0x30))
      rw [List.foldl_cons, List.length_cons, Nat.pow_succ']
      calc _ < (n * 10 + (c.toNat - 0x30) + 1) * 10 ^ cs.length := others
        _ ≤ ((n + 1) * 10) * 10 ^ cs.length := Nat.mul_le_mul_right _ (by omega)
        _ = (n + 1) * (10 * 10 ^ cs.length) := Nat.mul_assoc _ _ _
  simpa [ofDigits] using further 0

theorem isPrintable_ofDigits {cs : List Char} (h : ∀ c ∈ cs, c.isDigit)
    (short : cs.length ≤ maxDigits) (isNegative : Bool) :
    isPrintable (if isNegative then -ofDigits cs else ofDigits cs) := by
  have magnitude :
      (if isNegative then -ofDigits cs else ofDigits cs : Int).natAbs = ofDigits cs := by
    cases isNegative <;> simp
  unfold isPrintable
  rw [magnitude]
  -- The bound is a number that must not be computed.
  generalize maxDigits = limit at short ⊢
  exact decide_eq_true
    (Nat.lt_of_lt_of_le (ofDigits_lt h) (Nat.pow_le_pow_right (by decide) short))

theorem not_isPrintable_pow_maxDigits : ¬isPrintable (10 ^ maxDigits) := by
  unfold isPrintable
  -- The bound is a number that must not be computed.
  generalize maxDigits = limit
  simp [Int.natAbs_pow]

theorem toList_toString (n : Int) :
    (toString n).toList
      = (if 0 ≤ n then [] else ['-']) ++ Nat.toDigits 10 n.natAbs := by
  rw [show toString n = n.repr from rfl, Int.repr_eq_if]
  split
  · rw [Nat.toList_repr, show n.toNat = n.natAbs by omega, List.nil_append]
  · rw [String.toList_append, Nat.toList_repr, show (-n).toNat = n.natAbs by omega]
    rfl

end Typescribe.Decimal
