/-!
This module contains the decoding of UTF-8 bytes: shortest forms only, no surrogates, nothing above
the last code point. Decoding gives back every text that was encoded.
-/

namespace Typescribe.Text

private def isTail (low high byte : Nat) : Bool :=
  low ≤ byte && byte ≤ high

def decodeUtf8 : List Nat → Option (List Char)
  | [] => some []
  | a :: rest =>
    if a < 0x80 then
      (decodeUtf8 rest).map (Char.ofNat a :: ·)
    else
      match rest with
      | b :: rest =>
        if 0xC2 ≤ a && a ≤ 0xDF then
          if isTail 0x80 0xBF b then
            (decodeUtf8 rest).map (Char.ofNat ((a - 0xC0) * 0x40 + (b - 0x80)) :: ·)
          else none
        else
          match rest with
          | c :: rest =>
            if 0xE0 ≤ a && a ≤ 0xEF then
              let low := if a = 0xE0 then 0xA0 else 0x80
              let high := if a = 0xED then 0x9F else 0xBF
              if isTail low high b && isTail 0x80 0xBF c then
                let code := (a - 0xE0) * 0x1000 + (b - 0x80) * 0x40 + (c - 0x80)
                (decodeUtf8 rest).map (Char.ofNat code :: ·)
              else none
            else
              match rest with
              | d :: rest =>
                let low := if a = 0xF0 then 0x90 else 0x80
                let high := if a = 0xF4 then 0x8F else 0xBF
                if 0xF0 ≤ a && a ≤ 0xF4 && isTail low high b && isTail 0x80 0xBF c
                    && isTail 0x80 0xBF d then
                  let code := (a - 0xF0) * 0x40000 + (b - 0x80) * 0x1000 + (c - 0x80) * 0x40
                    + (d - 0x80)
                  (decodeUtf8 rest).map (Char.ofNat code :: ·)
                else none
              | [] => none
          | [] => none
      | [] => none

private def tailBounds? (a : Nat) : Option (Nat × Nat × Nat) :=
  if 0xC2 ≤ a && a ≤ 0xDF then some (0x80, 0xBF, 1)
  else if a = 0xE0 then some (0xA0, 0xBF, 2)
  else if a = 0xED then some (0x80, 0x9F, 2)
  else if 0xE1 ≤ a && a ≤ 0xEF then some (0x80, 0xBF, 2)
  else if a = 0xF0 then some (0x90, 0xBF, 3)
  else if a = 0xF4 then some (0x80, 0x8F, 3)
  else if 0xF1 ≤ a && a ≤ 0xF3 then some (0x80, 0xBF, 3)
  else none

/-- The count of the bytes that can stand behind a first one, at most as many as it needs. -/
private def tailLength (low high : Nat) : (count : Nat) → List Nat → Nat
  | 0, _ => 0
  | _, [] => 0
  | count + 1, b :: rest =>
    if isTail low high b then tailLength 0x80 0xBF count rest + 1 else 0

/--
The characters that the bytes encode. Every byte that can start no character, and every start of a
character that breaks off, becomes a replacement character. The fuel is at least the count of bytes.
-/
def replaceUtf8 : (fuel : Nat) → List Nat → List Char
  | 0, _ => []
  | _, [] => []
  | fuel + 1, a :: rest =>
    if a < 0x80 then Char.ofNat a :: replaceUtf8 fuel rest
    else
      match tailBounds? a with
      | none => '\ufffd' :: replaceUtf8 fuel rest
      | some (low, high, count) =>
        let length := tailLength low high count rest
        let first :=
          if length = count then (decodeUtf8 (a :: rest.take count)).getD [] else ['\ufffd']
        first ++ replaceUtf8 fuel (rest.drop length)

def encodeUtf8Char (c : Char) : List Nat :=
  let n := c.toNat
  if n < 0x80 then [n]
  else if n < 0x800 then [0xC0 + n / 0x40, 0x80 + n % 0x40]
  else if n < 0x10000 then [0xE0 + n / 0x1000, 0x80 + n / 0x40 % 0x40, 0x80 + n % 0x40]
  else [0xF0 + n / 0x40000, 0x80 + n / 0x1000 % 0x40, 0x80 + n / 0x40 % 0x40, 0x80 + n % 0x40]

def encodeUtf8 (cs : List Char) : List Nat :=
  cs.flatMap encodeUtf8Char

theorem decodeUtf8_encodeUtf8Char_append (c : Char) (rest : List Nat) :
    decodeUtf8 (encodeUtf8Char c ++ rest) = (decodeUtf8 rest).map (c :: ·) := by
  have valid : c.toNat < 0xD800 ∨ (0xDFFF < c.toNat ∧ c.toNat < 0x110000) := c.valid
  have back : Char.ofNat c.toNat = c := Char.ofNat_toNat c
  generalize hn : c.toNat = n at valid back
  unfold encodeUtf8Char
  simp only [hn]
  by_cases one : n < 0x80
  · rw [if_pos one, List.singleton_append, decodeUtf8.eq_def]
    simp only [if_pos one, back]
  · by_cases two : n < 0x800
    · have code : (0xC0 + n / 0x40 - 0xC0) * 0x40 + (0x80 + n % 0x40 - 0x80) = n := by omega
      rw [if_neg one, if_pos two, decodeUtf8.eq_def]
      simp only [List.cons_append, List.nil_append]
      rw [if_neg (by omega), if_pos (by simp; omega), if_pos (by simp [isTail]; omega), code, back]
    · by_cases three : n < 0x10000
      · have code : (0xE0 + n / 0x1000 - 0xE0) * 0x1000 + (0x80 + n / 0x40 % 0x40 - 0x80) * 0x40
            + (0x80 + n % 0x40 - 0x80) = n := by omega
        rw [if_neg one, if_neg two, if_pos three, decodeUtf8.eq_def]
        simp only [List.cons_append, List.nil_append]
        rw [if_neg (by omega), if_neg (by simp; omega), if_pos (by simp; omega),
          if_pos (by simp [isTail]; split <;> split <;> omega), code, back]
      · have code : (0xF0 + n / 0x40000 - 0xF0) * 0x40000
            + (0x80 + n / 0x1000 % 0x40 - 0x80) * 0x1000
            + (0x80 + n / 0x40 % 0x40 - 0x80) * 0x40 + (0x80 + n % 0x40 - 0x80) = n := by omega
        rw [if_neg one, if_neg two, if_neg three, decodeUtf8.eq_def]
        simp only [List.cons_append, List.nil_append]
        rw [if_neg (by omega), if_neg (by simp; omega), if_neg (by simp; omega),
          if_pos (by simp [isTail]; split <;> split <;> omega), code, back]

theorem decodeUtf8_encodeUtf8 (cs : List Char) : decodeUtf8 (encodeUtf8 cs) = some cs := by
  induction cs with
  | nil => rfl
  | cons c cs ih =>
    have split : encodeUtf8 (c :: cs) = encodeUtf8Char c ++ encodeUtf8 cs := rfl
    rw [split, decodeUtf8_encodeUtf8Char_append, ih]
    rfl

end Typescribe.Text
