import Mathlib.Algebra.Group.Nat.Defs
import Typescribe.Json.Reader
import Typescribe.Json.Writer
import Typescribe.Proofs.Text.Hex

/-!
This module contains the reading of written JSON strings: reading a quoted text gives the text back,
whatever characters it holds and whatever follows it.
-/

namespace Typescribe

namespace Text

theorem foldlM_hex (width n start : Nat) :
    (hex width n).foldlM (fun value c => (hexValue? c).map (value * 16 + ·)) start
      = some (start * 16 ^ width + n % 16 ^ width) := by
  induction width generalizing n with
  | zero => simp [hex, Nat.mod_one]
  | succ width ih =>
    have digit := hexValue?_hexDigit (Nat.mod_lt n (by omega : 0 < 16))
    have parts : n % 16 ^ (width + 1) = n / 16 % 16 ^ width * 16 + n % 16 := by
      rw [Nat.pow_succ, Nat.mul_comm, Nat.mod_mul]
      omega
    rw [hex, List.foldlM_append, ih]
    simp only [Option.bind_eq_bind, Option.bind_some, List.foldlM_cons, List.foldlM_nil, digit,
      Option.map_some, Option.pure_def, Option.some.injEq]
    rw [parts, Nat.pow_succ, ← Nat.mul_assoc, Nat.add_mul]
    omega

theorem ofHex?_hex {width n : Nat} (h : n < 16 ^ width) : ofHex? (hex width n) = some n := by
  rw [ofHex?, foldlM_hex]
  simp [Nat.mod_eq_of_lt h]

theorem toNat_cases (c : Char) : c.toNat < 0xD800 ∨ 0xDFFF < c.toNat ∧ c.toNat < 0x110000 :=
  c.valid

theorem unitChar_toNat {c : Char} : unitChar c.toNat = c := by
  have high : isHighSurrogate c.toNat = false := by
    have := toNat_cases c
    simp only [isHighSurrogate, Bool.and_eq_false_iff, decide_eq_false_iff_not]
    omega
  have low : isLowSurrogate c.toNat = false := by
    have := toNat_cases c
    simp only [isLowSurrogate, Bool.and_eq_false_iff, decide_eq_false_iff_not]
    omega
  simp [unitChar, high, low, Char.ofNat_toNat]

theorem pairChar_toNat {c : Char} (h : 0x10000 ≤ c.toNat) :
    pairChar (0xD800 + (c.toNat - 0x10000) / 0x400) (0xDC00 + (c.toNat - 0x10000) % 0x400) = c := by
  have number : 0x10000 + (0xD800 + (c.toNat - 0x10000) / 0x400 - 0xD800) * 0x400
      + (0xDC00 + (c.toNat - 0x10000) % 0x400 - 0xDC00) = c.toNat := by omega
  rw [pairChar, number, Char.ofNat_toNat]

end Text

namespace Json

theorem unicodeEscape_eq {n : Nat} (h : n < 0x10000) :
    ∃ a b c d, unicodeEscape n = ['\\', 'u', a, b, c, d] ∧ Text.ofHex? [a, b, c, d] = some n := by
  have read : Text.ofHex? (Text.hex 4 n) = some n := Text.ofHex?_hex h
  exact ⟨_, _, _, _, rfl, read⟩

theorem readString_of_not_hex {a b c d : Char} (digits : Text.ofHex? [a, b, c, d] = none)
    (rest : List Char) : readString ('\\' :: 'u' :: a :: b :: c :: d :: rest) = .error .malformed := by
  by_cases pair : ∃ e f g h tail, rest = '\\' :: 'u' :: e :: f :: g :: h :: tail
  · obtain ⟨e, f, g, h, tail, rfl⟩ := pair
    rw [readString.eq_3, digits]
  · rw [readString.eq_4 _ _ _ _ _ fun e f g h tail hr => pair ⟨e, f, g, h, tail, hr⟩, digits]

theorem readString_unit {a b c d : Char} {unit : Nat}
    (digits : Text.ofHex? [a, b, c, d] = some unit) (single : Text.isHighSurrogate unit = false)
    (rest : List Char) :
    readString ('\\' :: 'u' :: a :: b :: c :: d :: rest)
      = consRead (Text.unitChar unit) (readString rest) := by
  by_cases pair : ∃ e f g h tail, rest = '\\' :: 'u' :: e :: f :: g :: h :: tail
  · obtain ⟨e, f, g, h, tail, rfl⟩ := pair
    rw [readString.eq_3, digits]
    cases second : Text.ofHex? [e, f, g, h] with
    | none =>
      rw [readString_of_not_hex second]
      rfl
    | some low => simp [single]
  · rw [readString.eq_4 _ _ _ _ _ fun e f g h tail hr => pair ⟨e, f, g, h, tail, hr⟩, digits]

theorem readString_pair {a b c d e f g h : Char} {high low : Nat}
    (first : Text.ofHex? [a, b, c, d] = some high) (second : Text.ofHex? [e, f, g, h] = some low)
    (isHigh : Text.isHighSurrogate high) (isLow : Text.isLowSurrogate low) (rest : List Char) :
    readString ('\\' :: 'u' :: a :: b :: c :: d :: '\\' :: 'u' :: e :: f :: g :: h :: rest)
      = consRead (Text.pairChar high low) (readString rest) := by
  rw [readString.eq_3, first, second]
  simp [isHigh, isLow]

theorem readString_letter {letter c : Char} (h : simpleEscape? letter = some c)
    (rest : List Char) : readString ('\\' :: letter :: rest) = consRead c (readString rest) := by
  have other : letter ≠ 'u' := by
    rintro rfl
    cases h
  rw [readString.eq_5 _ _ (fun _ _ _ _ _ _ _ _ _ e _ => other e) fun _ _ _ _ _ e _ => other e, h]

theorem readString_plain {c : Char} (quote : c ≠ '"') (backslash : c ≠ '\\')
    (printable : 0x20 ≤ c.toNat) (rest : List Char) :
    readString (c :: rest) = consRead c (readString rest) := by
  rw [readString.eq_6 _ _ quote (fun _ _ _ _ _ _ _ _ _ e _ => backslash e)
    (fun _ _ _ _ _ e _ => backslash e) fun _ _ e _ => backslash e]
  have large : ¬c.toNat < 0x20 := by omega
  simp [backslash, large]

/-- How a character is written inside a string. -/
inductive EscapedAs : Char → List Char → Prop where
  | letter {c letter : Char} (known : simpleEscape? letter = some c) : EscapedAs c ['\\', letter]
  | plain {c : Char} (quote : c ≠ '"') (backslash : c ≠ '\\') (printable : 0x20 ≤ c.toNat) :
    EscapedAs c [c]
  | unit {c : Char} (small : c.toNat < 0x10000) : EscapedAs c (unicodeEscape c.toNat)
  | pair {c : Char} (large : 0x10000 ≤ c.toNat) :
    EscapedAs c (unicodeEscape (0xD800 + (c.toNat - 0x10000) / 0x400)
      ++ unicodeEscape (0xDC00 + (c.toNat - 0x10000) % 0x400))

theorem escapedAs_escapeChar (c : Char) : EscapedAs c (escapeChar c) := by
  unfold escapeChar
  simp only
  split
  · next h => subst h; exact .letter rfl
  · next quote =>
    split
    · next h => subst h; exact .letter rfl
    · next backslash =>
      split
      · next h => subst h; exact .letter rfl
      split
      · next h => subst h; exact .letter rfl
      split
      · next h => subst h; exact .letter rfl
      split
      · next h => subst h; exact .letter rfl
      split
      · next h => subst h; exact .letter rfl
      split
      · next printable => exact .plain quote backslash printable.1
      split
      · next small => exact .unit small
      · next large => exact .pair (by omega)

theorem EscapedAs.readString {c : Char} {cs : List Char} (h : EscapedAs c cs) (rest : List Char) :
    readString (cs ++ rest) = consRead c (readString rest) := by
  cases h with
  | letter known => exact readString_letter known rest
  | plain quote backslash printable => exact readString_plain quote backslash printable rest
  | unit small =>
    obtain ⟨_, _, _, _, written, digits⟩ := unicodeEscape_eq small
    have single : Text.isHighSurrogate c.toNat = false := by
      have := Text.toNat_cases c
      simp only [Text.isHighSurrogate, Bool.and_eq_false_iff, decide_eq_false_iff_not]
      omega
    rw [written]
    exact (readString_unit digits single rest).trans (by rw [Text.unitChar_toNat])
  | pair large =>
    -- Both halves are below `0x10000`, since a character is below `0x110000`.
    have valid := Text.toNat_cases c
    obtain ⟨_, _, _, _, high, first⟩ := unicodeEscape_eq
      (n := 0xD800 + (c.toNat - 0x10000) / 0x400) (by omega)
    obtain ⟨_, _, _, _, low, second⟩ := unicodeEscape_eq
      (n := 0xDC00 + (c.toNat - 0x10000) % 0x400) (by omega)
    rw [high, low]
    refine (readString_pair first second ?_ ?_ rest).trans ?_
    · simp only [Text.isHighSurrogate, Bool.and_eq_true, decide_eq_true_eq]
      omega
    · simp only [Text.isLowSurrogate, Bool.and_eq_true, decide_eq_true_eq]
      omega
    · rw [Text.pairChar_toNat large]

theorem readString_escaped (cs rest : List Char) :
    readString (cs.flatMap escapeChar ++ '"' :: rest) = .ok (cs, rest) := by
  induction cs with
  | nil => exact readString.eq_2 rest
  | cons c cs ih =>
    rw [List.flatMap_cons, List.append_assoc, (escapedAs_escapeChar c).readString, ih]
    rfl

end Json

end Typescribe
