/-!
This module contains surrogates: the code units that stand in pairs for characters above U+FFFF.
-/

namespace Typescribe.Text

def isHighSurrogate (n : Nat) : Bool :=
  0xD800 ≤ n && n < 0xDC00

def isLowSurrogate (n : Nat) : Bool :=
  0xDC00 ≤ n && n < 0xE000

/--
The character of a code unit that stands alone. Texts that are read are assumed to be made of
characters only: half a pair, which is none, becomes the replacement character. Texts that are
written can hold it (`Text.CodePoint`).
-/
def unitChar (n : Nat) : Char :=
  if isHighSurrogate n || isLowSurrogate n then '\ufffd' else Char.ofNat n

def pairChar (high low : Nat) : Char :=
  Char.ofNat (0x10000 + (high - 0xD800) * 0x400 + (low - 0xDC00))

end Typescribe.Text
