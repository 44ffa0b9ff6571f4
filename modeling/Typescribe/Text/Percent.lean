import Typescribe.Text.Hex
import Typescribe.Text.Utf8

/-!
This module contains the percent-encoding of path segments. An encoded segment holds unreserved
characters and percent signs only, and decoding it gives the segment back.
-/

namespace Typescribe.Text

/-- The characters that stand for themselves in a path segment: letters, digits, `_.-~`. -/
def isUnreserved (c : Char) : Bool :=
  c.isAlphanum || c = '_' || c = '.' || c = '-' || c = '~'

def upperHexDigit (n : Nat) : Char :=
  if n < 10 then Char.ofNat (0x30 + n) else Char.ofNat (0x37 + n)

theorem hexValue?_upperHexDigit {n : Nat} (h : n < 16) : hexValue? (upperHexDigit n) = some n := by
  have all : ∀ m ∈ List.range 16, hexValue? (upperHexDigit m) = some m := by decide
  exact all n (List.mem_range.mpr h)

theorem isUnreserved_upperHexDigit {n : Nat} (h : n < 16) : isUnreserved (upperHexDigit n) := by
  have all : ∀ m ∈ List.range 16, isUnreserved (upperHexDigit m) := by decide
  exact all n (List.mem_range.mpr h)

def percentByte (byte : Nat) : List Char :=
  ['%', upperHexDigit (byte / 16), upperHexDigit (byte % 16)]

def percentEncode (cs : List Char) : List Char :=
  cs.flatMap fun c => if isUnreserved c then [c] else (encodeUtf8Char c).flatMap percentByte

def percentBytes : List Char → Option (List Nat)
  | [] => some []
  | '%' :: high :: low :: rest =>
    match hexValue? high, hexValue? low with
    | some h, some l => (percentBytes rest).map ((h * 16 + l) :: ·)
    | _, _ => none
  | c :: rest =>
    if c = '%' then none else (percentBytes rest).map fun bytes => encodeUtf8Char c ++ bytes

def percentDecode (cs : List Char) : Option (List Char) :=
  (percentBytes cs).bind decodeUtf8

/-- The bytes of a percent-encoded text; a percent sign that encodes nothing stands for itself. -/
def someBytes : List Char → List Nat
  | [] => []
  | '%' :: high :: low :: rest =>
    match hexValue? high, hexValue? low with
    | some h, some l => (h * 16 + l) :: someBytes rest
    | _, _ => 0x25 :: someBytes (high :: low :: rest)
  | c :: rest => encodeUtf8Char c ++ someBytes rest

def percentReplace (cs : List Char) : List Char :=
  let bytes := someBytes cs
  replaceUtf8 bytes.length bytes

theorem encodeUtf8Char_lt {c : Char} {byte : Nat} (h : byte ∈ encodeUtf8Char c) : byte < 256 := by
  have valid : c.toNat < 0xD800 ∨ (0xDFFF < c.toNat ∧ c.toNat < 0x110000) := c.valid
  simp only [encodeUtf8Char] at h
  split at h
  · simp at h; omega
  · split at h
    · simp at h; omega
    · split at h <;> simp at h <;> omega

theorem percentBytes_percentByte_append {byte : Nat} (h : byte < 256) (rest : List Char) :
    percentBytes (percentByte byte ++ rest) = (percentBytes rest).map (byte :: ·) := by
  have high := hexValue?_upperHexDigit (n := byte / 16) (by omega)
  have low := hexValue?_upperHexDigit (n := byte % 16) (by omega)
  have value : byte / 16 * 16 + byte % 16 = byte := by omega
  simp [percentByte, percentBytes, high, low, value]

theorem percentBytes_flatMap_append (bytes : List Nat) (h : ∀ byte ∈ bytes, byte < 256)
    (rest : List Char) :
    percentBytes (bytes.flatMap percentByte ++ rest) = (percentBytes rest).map (bytes ++ ·) := by
  induction bytes with
  | nil => simp
  | cons byte bytes ih =>
    rw [List.flatMap_cons, List.append_assoc,
      percentBytes_percentByte_append (h byte (List.mem_cons_self ..)),
      ih fun b hb => h b (List.mem_cons_of_mem _ hb)]
    cases percentBytes rest <;> rfl

theorem percentBytes_percentEncode (cs : List Char) :
    percentBytes (percentEncode cs) = some (encodeUtf8 cs) := by
  induction cs with
  | nil => rfl
  | cons c cs ih =>
    have whole : percentEncode (c :: cs) =
        (if isUnreserved c then [c] else (encodeUtf8Char c).flatMap percentByte)
          ++ percentEncode cs := rfl
    have bytes : encodeUtf8 (c :: cs) = encodeUtf8Char c ++ encodeUtf8 cs := rfl
    rw [whole, bytes]
    split
    · next free =>
      have notMark : c ≠ '%' := by rintro rfl; simp [isUnreserved] at free
      rw [List.singleton_append, percentBytes, if_neg notMark, ih]
      · rfl
      · exact fun _ _ _ mark => absurd mark notMark
    · rw [percentBytes_flatMap_append _ (fun _ => encodeUtf8Char_lt), ih]
      rfl

theorem percentDecode_percentEncode (cs : List Char) :
    percentDecode (percentEncode cs) = some cs := by
  rw [percentDecode, percentBytes_percentEncode]
  exact decodeUtf8_encodeUtf8 cs

theorem mem_percentEncode {cs : List Char} {c : Char} (h : c ∈ percentEncode cs) :
    isUnreserved c ∨ c = '%' := by
  obtain ⟨x, _, hx⟩ := List.mem_flatMap.mp h
  split at hx
  · next free => exact .inl (List.mem_singleton.mp hx ▸ free)
  · obtain ⟨byte, hbyte, hc⟩ := List.mem_flatMap.mp hx
    have bound := encodeUtf8Char_lt hbyte
    simp only [percentByte, List.mem_cons, List.not_mem_nil, or_false] at hc
    rcases hc with rfl | rfl | rfl
    · exact .inr rfl
    · exact .inl (isUnreserved_upperHexDigit (by omega))
    · exact .inl (isUnreserved_upperHexDigit (by omega))

end Typescribe.Text
