import Typescribe.Text.Split
import Typescribe.Text.Surrogate
import Typescribe.Text.Utf8

/-!
This module contains the encodings of JSON texts. The first character of a JSON text is one of
ASCII, so that the zeros among the first bytes tell how many bytes a character has.
-/

namespace Typescribe.Json

/-- The order of the bytes of a unit. -/
inductive ByteOrder where
  | bigFirst
  | littleFirst
deriving DecidableEq, Repr

inductive Encoding where
  | utf8
  | utf16 (order : ByteOrder)
  | utf32 (order : ByteOrder)
deriving DecidableEq, Repr

def markedEncoding? : List Nat → Option (Encoding × List Nat)
  | 0 :: 0 :: 0xFE :: 0xFF :: rest => some (.utf32 .bigFirst, rest)
  | 0xFF :: 0xFE :: 0 :: 0 :: rest => some (.utf32 .littleFirst, rest)
  | 0xFE :: 0xFF :: rest => some (.utf16 .bigFirst, rest)
  | 0xFF :: 0xFE :: rest => some (.utf16 .littleFirst, rest)
  | 0xEF :: 0xBB :: 0xBF :: rest => some (.utf8, rest)
  | _ => none

def shownEncoding : List Nat → Encoding
  | 0 :: 0 :: _ :: _ :: _ => .utf32 .bigFirst
  | 0 :: _ :: _ :: _ :: _ => .utf16 .bigFirst
  | _ :: 0 :: 0 :: 0 :: _ => .utf32 .littleFirst
  | _ :: 0 :: _ :: _ :: _ => .utf16 .littleFirst
  | [0, _] => .utf16 .bigFirst
  | [_, 0] => .utf16 .littleFirst
  | _ => .utf8

def pairUnits? (order : ByteOrder) : List Nat → Option (List Nat)
  | [] => some []
  | a :: b :: rest =>
    (pairUnits? order rest).map ((if order = .bigFirst then a * 0x100 + b else b * 0x100 + a) :: ·)
  | _ => none

def doubleUnits? (order : ByteOrder) : List Nat → Option (List Nat)
  | [] => some []
  | a :: b :: rest =>
    (doubleUnits? order rest).map
      ((if order = .bigFirst then a * 0x10000 + b else b * 0x10000 + a) :: ·)
  | _ => none

def ofUnits : List Nat → List Char
  | [] => []
  | [unit] => [Text.unitChar unit]
  | first :: second :: rest =>
    if Text.isHighSurrogate first && Text.isLowSurrogate second then
      Text.pairChar first second :: ofUnits rest
    else Text.unitChar first :: ofUnits (second :: rest)

def Encoding.decode? : Encoding → List Nat → Option (List Char)
  | utf8, bytes => Text.decodeUtf8 bytes
  | utf16 order, bytes => (pairUnits? order bytes).map ofUnits
  | utf32 order, bytes => do
    let codes ← doubleUnits? order (← pairUnits? order bytes)
    if codes.all (· < 0x110000) then some (codes.map Text.unitChar) else none

def decodeBytes? (bytes : List Nat) : Option (List Char) :=
  match markedEncoding? bytes with
  | some (encoding, rest) => encoding.decode? rest
  | none => (shownEncoding bytes).decode? bytes

end Typescribe.Json
