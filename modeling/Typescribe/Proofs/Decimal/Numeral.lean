import Typescribe.Proofs.Decimal.Digits
import Typescribe.Proofs.Decimal.Layout

/-!
This module contains numerals: digits with perhaps a sign, a fraction and an exponent. Every whole
number and every finite double is written as one. The words for other doubles are no numerals.
-/

namespace Typescribe.Decimal

def IsDigits (cs : List Char) : Prop :=
  cs ≠ [] ∧ ∀ c ∈ cs, c.isDigit

/-- The digits before the point: they start with a zero only if there is no other digit. -/
def IsWholePart (cs : List Char) : Prop :=
  IsDigits cs ∧ (cs.head? = some '0' → cs = ['0'])

inductive IsFraction : List Char → Prop where
  | none : IsFraction []
  | digits {cs : List Char} (h : IsDigits cs) : IsFraction ('.' :: cs)

inductive IsExponent : List Char → Prop where
  | none : IsExponent []
  | digits {sign cs : List Char} (hs : sign = [] ∨ sign = ['+'] ∨ sign = ['-']) (h : IsDigits cs) :
    IsExponent ('e' :: (sign ++ cs))

inductive IsUnsigned : List Char → Prop where
  | parts {whole fraction exponent : List Char} (hw : IsWholePart whole) (hf : IsFraction fraction)
    (he : IsExponent exponent) : IsUnsigned (whole ++ (fraction ++ exponent))

inductive IsNumeral : List Char → Prop where
  | positive {cs : List Char} (h : IsUnsigned cs) : IsNumeral cs
  | negative {cs : List Char} (h : IsUnsigned cs) : IsNumeral ('-' :: cs)

/-- Neither infinite nor no number at all: the bits without the sign are below those of infinity. -/
def IsFinite (x : Float) : Prop :=
  x.toBits.toNat % signBit < infinityBits

/-! ### What is no numeral -/

def isNumeralChar (c : Char) : Bool :=
  c.isDigit || ['.', 'e', '+', '-'].contains c

theorem IsDigits.chars {cs : List Char} (h : IsDigits cs) : ∀ c ∈ cs, isNumeralChar c := by
  intro c hc
  simp [isNumeralChar, h.2 c hc]

theorem IsFraction.chars {cs : List Char} (h : IsFraction cs) : ∀ c ∈ cs, isNumeralChar c := by
  cases h with
  | none => simp
  | digits h => exact List.forall_mem_cons.mpr ⟨rfl, h.chars⟩

theorem IsExponent.chars {cs : List Char} (h : IsExponent cs) : ∀ c ∈ cs, isNumeralChar c := by
  cases h with
  | none => simp
  | @digits sign digits hs h =>
    have sign : ∀ c ∈ sign, isNumeralChar c := by
      rcases hs with rfl | rfl | rfl <;> exact Text.forall_mem_of_all rfl
    exact List.forall_mem_cons.mpr ⟨rfl, List.forall_mem_append.mpr ⟨sign, h.chars⟩⟩

theorem IsUnsigned.chars {cs : List Char} (h : IsUnsigned cs) : ∀ c ∈ cs, isNumeralChar c := by
  cases h with
  | parts hw hf he =>
    exact List.forall_mem_append.mpr
      ⟨hw.1.chars, List.forall_mem_append.mpr ⟨hf.chars, he.chars⟩⟩

theorem IsNumeral.chars {cs : List Char} (h : IsNumeral cs) : ∀ c ∈ cs, isNumeralChar c := by
  cases h with
  | positive h => exact h.chars
  | negative h => exact List.forall_mem_cons.mpr ⟨rfl, h.chars⟩

/-! ### Digits of whole numbers -/

theorem isDigits_toDigits (n : Nat) : IsDigits (Nat.toDigits 10 n) :=
  ⟨Nat.toDigits_ne_nil, isDigit_of_mem_toDigits⟩

theorem eq_zero_of_head?_toDigits {n : Nat} (h : (Nat.toDigits 10 n).head? = some '0') : n = 0 := by
  rcases Nat.eq_zero_or_pos n with zero | positive
  · exact zero
  · obtain ⟨c, cs, digits, notZero⟩ := exists_toDigits_of_pos positive
    rw [digits] at h
    exact absurd (Option.some.inj h) notZero

theorem isWholePart_toDigits (n : Nat) : IsWholePart (Nat.toDigits 10 n) := by
  refine ⟨isDigits_toDigits n, fun first => ?_⟩
  rw [eq_zero_of_head?_toDigits first]
  rfl

theorem isWholePart_singleton {c : Char} (h : c.isDigit) : IsWholePart [c] := by
  refine ⟨⟨List.cons_ne_nil _ _, by simpa using h⟩, fun first => ?_⟩
  rw [Option.some.inj first]

theorem IsWholePart.isUnsigned {cs : List Char} (h : IsWholePart cs) : IsUnsigned cs := by
  have parts := IsUnsigned.parts h .none .none
  rwa [List.append_nil, List.append_nil] at parts

theorem isNumeral_toString (n : Int) : IsNumeral (toString n).toList := by
  have digits := (isWholePart_toDigits n.natAbs).isUnsigned
  rw [toList_toString]
  split
  · exact .positive digits
  · exact .negative digits

/-! ### Doubles -/

theorem isDigits_replicate_append {cs : List Char} (h : IsDigits cs) (n : Nat) :
    IsDigits (List.replicate n '0' ++ cs) := by
  refine ⟨by simp [h.1], List.forall_mem_append.mpr ⟨fun c hc => ?_, h.2⟩⟩
  rw [List.eq_of_mem_replicate hc]
  rfl

theorem isExponent_exponentText (width : Nat) (exponent : Int) :
    IsExponent (exponentText width exponent).toList := by
  have digits := isDigits_replicate_append (isDigits_toDigits exponent.natAbs)
    (width - (Nat.toDigits 10 exponent.natAbs).length)
  unfold exponentText padded
  simp only [String.toList_append, String.toList_ofList, Nat.toList_repr]
  split
  · exact @IsExponent.digits ['-'] _ (.inr (.inr rfl)) digits
  · exact @IsExponent.digits ['+'] _ (.inr (.inl rfl)) digits

theorem isWholePart_toDigits_append {n count : Nat} (h : n = 0 → count = 0) :
    IsWholePart (Nat.toDigits 10 n ++ List.replicate count '0') := by
  have zeros : ∀ c ∈ List.replicate count '0', c.isDigit := by
    intro c hc
    rw [List.eq_of_mem_replicate hc]
    rfl
  refine ⟨⟨by simp, List.forall_mem_append.mpr ⟨isDigit_of_mem_toDigits, zeros⟩⟩, fun first => ?_⟩
  obtain ⟨c, cs, digits⟩ := List.exists_cons_of_ne_nil (Nat.toDigits_ne_nil (b := 10) (n := n))
  have zero : n = 0 := by
    apply eq_zero_of_head?_toDigits
    rw [digits] at first ⊢
    exact first
  rw [h zero, zero]
  rfl

theorem isWholePart_take_toDigits {n count : Nat} (positive : 0 < count)
    (h : count < (Nat.toDigits 10 n).length) : IsWholePart ((Nat.toDigits 10 n).take count) := by
  refine ⟨⟨?_, fun c hc => isDigit_of_mem_toDigits c (List.mem_of_mem_take hc)⟩, fun first => ?_⟩
  · rw [← List.length_pos_iff, List.length_take]
    omega
  · rw [List.head?_take, if_neg (by omega)] at first
    rw [eq_zero_of_head?_toDigits first] at h
    exact absurd h (by simp; omega)

theorem isDigits_drop_toDigits {n count : Nat} (h : count < (Nat.toDigits 10 n).length) :
    IsDigits ((Nat.toDigits 10 n).drop count) := by
  refine ⟨?_, fun c hc => isDigit_of_mem_toDigits c (List.mem_of_mem_drop hc)⟩
  rw [← List.length_pos_iff, List.length_drop]
  omega

/-- The digits before the point stay without a needless zero, also when zeros are added to them. -/
theorem isUnsigned_positive {d : Digits} (h : d.digits = 0 → d.exponent = 0) (layout : Layout) :
    IsUnsigned (layout.positive d).toList := by
  have digits := isDigits_toDigits d.digits
  have exponent := isExponent_exponentText layout.exponentDigits
    (d.exponent + (Nat.toDigits 10 d.digits).length - 1)
  have zero : IsFraction ['.', '0'] := .digits (isDigits_toDigits 0)
  unfold Layout.positive
  simp only [Nat.toList_repr]
  split
  · cases written : Nat.toDigits 10 d.digits with
    | nil => exact absurd written Nat.toDigits_ne_nil
    | cons first rest =>
      rw [written] at digits exponent
      have whole := isWholePart_singleton (digits.2 first List.mem_cons_self)
      rw [String.toList_append]
      cases rest with
      | nil => simpa using IsUnsigned.parts whole .none exponent
      | cons second rest =>
        have fraction : IsFraction ('.' :: second :: rest) :=
          .digits ⟨List.cons_ne_nil _ _, fun c hc => digits.2 c (List.mem_cons_of_mem _ hc)⟩
        simpa using IsUnsigned.parts whole fraction exponent
  · split
    · have places := isDigits_replicate_append digits
        ((d.exponent + (Nat.toDigits 10 d.digits).length - 1).natAbs - 1)
      have parts := IsUnsigned.parts (isWholePart_toDigits 0) (.digits places) .none
      simpa using parts
    · split
      · next notSmall fits =>
        have count : d.digits = 0 →
            (d.exponent + (Nat.toDigits 10 d.digits).length - 1).toNat + 1
              - (Nat.toDigits 10 d.digits).length = 0 := by
          intro none
          rw [none, h none]
          decide
        have parts := IsUnsigned.parts (isWholePart_toDigits_append count) zero .none
        simpa using parts
      · next notSmall long =>
        have more := Nat.not_le.mp long
        have parts := IsUnsigned.parts (isWholePart_take_toDigits (Nat.succ_pos _) more)
          (.digits (isDigits_drop_toDigits more)) .none
        simpa using parts

/-! ### The shortest digits -/

theorem Ratio.num_scaled_pos {n base : Nat} (hn : 0 < n) (hb : 0 < base) (exponent : Int) :
    0 < (Ratio.scaled n base exponent).num := by
  unfold Ratio.scaled
  split
  · exact Nat.mul_pos hn (Nat.pow_pos hb)
  · exact hn

theorem Ratio.den_scaled_pos {base : Nat} (hb : 0 < base) (n : Nat) (exponent : Int) :
    0 < (Ratio.scaled n base exponent).den := by
  unfold Ratio.scaled
  split
  · exact Nat.one_pos
  · exact Nat.pow_pos hb

theorem Ratio.num_scaled_zero (base : Nat) (exponent : Int) :
    (Ratio.scaled 0 base exponent).num = 0 := by
  unfold Ratio.scaled
  split
  · exact Nat.zero_mul _
  · rfl

namespace Binary

variable {b : Binary}

/-- Zero does not round to a positive number: it lies below the interval of the number. -/
theorem digits_ne_zero_of_accepts (positive : 0 < b.significand) {d : Digits} (h : b.accepts d) :
    d.digits ≠ 0 := by
  intro zero
  have low : 0 < b.fourfoldLow.num := by
    apply Ratio.num_scaled_pos _ (by decide)
    split <;> omega
  have ten : 0 < 10 := by decide
  have den := Ratio.den_scaled_pos ten (4 * d.digits) d.exponent
  have num : (Ratio.scaled (4 * d.digits) 10 d.exponent).num = 0 := by
    rw [zero]
    exact Ratio.num_scaled_zero 10 d.exponent
  have above := Nat.mul_pos low den
  unfold accepts at h
  simp only [Ratio.ble, Ratio.blt, num, Nat.zero_mul] at h
  split at h
  · simp only [Bool.and_eq_true, decide_eq_true_eq] at h
    omega
  · simp only [Bool.and_eq_true, decide_eq_true_eq] at h
    omega

theorem accepts_of_candidate? {count : Nat} {d : Digits} (h : b.candidate? count = some d) :
    b.accepts d := by
  unfold candidate? at h
  simp only at h
  split at h
  · next below above =>
    cases h
    split
    · exact below
    · exact above
  · next below _ =>
    cases h
    exact below
  · next _ above =>
    cases h
    exact above
  · cases h

theorem digits_stripZeros_eq_zero {fuel : Nat} {d : Digits} (h : (stripZeros fuel d).digits = 0) :
    d.digits = 0 := by
  induction fuel generalizing d with
  | zero => exact h
  | succ fuel ih =>
    unfold stripZeros at h
    split at h
    · next cut =>
      have zero := ih h
      simp only at zero
      omega
    · exact h

theorem exponent_shortest_eq_zero (positive : 0 < b.significand) (h : b.shortest.digits = 0) :
    b.shortest.exponent = 0 := by
  unfold shortest at h ⊢
  simp only at h ⊢
  cases found : (List.range 17).findSome? fun i => b.candidate? (i + 1) with
  | none => rfl
  | some d =>
    obtain ⟨i, -, candidate⟩ := List.exists_of_findSome?_eq_some found
    rw [found] at h
    exact absurd (digits_stripZeros_eq_zero h)
      (digits_ne_zero_of_accepts positive (accepts_of_candidate? candidate))

theorem significand_ofBits_pos {bits : Nat} (positive : 0 < bits) (finite : bits < infinityBits) :
    0 < (ofBits bits).significand := by
  unfold ofBits infinityBits fractionCount at *
  simp only
  split
  · simp only
    omega
  · simp only
    omega

end Binary

theorem isNumeral_text (layout : Layout) {x : Float} (h : IsFinite x) :
    IsNumeral (layout.text x).toList := by
  have signed {cs : List Char} (h : IsUnsigned cs) :
      IsNumeral ((if signBit ≤ x.toBits.toNat then "-" else "").toList ++ cs) := by
    split
    · exact .negative h
    · exact .positive h
  unfold Layout.text
  simp only
  split
  · have zero := IsUnsigned.parts (isWholePart_toDigits 0) (.digits (isDigits_toDigits 0)) .none
    rw [String.toList_append]
    exact signed zero
  · next notZero =>
    have small : x.toBits.toNat % signBit < infinityBits := h
    have positive := Binary.significand_ofBits_pos (Nat.pos_of_ne_zero notZero) small
    rw [if_pos small, String.toList_append]
    exact signed (isUnsigned_positive (Binary.exponent_shortest_eq_zero positive) layout)

/-- The words for what is no finite number hold letters that numerals do not hold. -/
theorem isNumeral_json_text_iff {x : Float} : IsNumeral (json.text x).toList ↔ IsFinite x := by
  refine ⟨fun numeral => ?_, isNumeral_text json⟩
  by_cases finite : IsFinite x
  · exact finite
  · have letter : ∃ c ∈ (json.text x).toList, isNumeralChar c = false := by
      have word : ∀ sign : String, ∃ c ∈ (sign ++ "Infinity").toList, isNumeralChar c = false :=
        fun sign => ⟨'I', by simp, rfl⟩
      have large : ¬x.toBits.toNat % signBit < infinityBits := finite
      have notZero : x.toBits.toNat % signBit ≠ 0 := by
        intro zero
        rw [zero] at large
        exact large (by decide)
      unfold Layout.text
      simp only
      rw [if_neg notZero, if_neg large]
      split
      · exact word _
      · exact ⟨'N', by decide, rfl⟩
    obtain ⟨c, hc, other⟩ := letter
    rw [numeral.chars c hc] at other
    cases other

end Typescribe.Decimal
