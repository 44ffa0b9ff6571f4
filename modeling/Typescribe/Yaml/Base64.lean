/-!
This module contains the decoding of bytes in base 64. Characters outside the alphabet are skipped.
-/

namespace Typescribe.Yaml

def base64Value? (c : Char) : Option Nat :=
  let n := c.toNat
  if c.isUpper then some (n - 0x41)
  else if c.isLower then some (n - 0x61 + 26)
  else if c.isDigit then some (n - 0x30 + 52)
  else if c = '+' then some 62
  else if c = '/' then some 63
  else none

/--
Decodes the rest of a text, given the count of digits since the last complete group, the bits left
over from them, and the count of padding signs seen.
-/
def base64Rest (bytes : List Nat) : (digits left pads : Nat) → List Char → Option (List Nat)
  | digits, _, _, [] => if digits = 0 then some bytes.reverse else none
  | digits, left, pads, c :: rest =>
    if c = '=' then
      if 2 ≤ digits then
        if 4 ≤ digits + pads + 1 then some bytes.reverse
        else base64Rest bytes digits left (pads + 1) rest
      else base64Rest bytes digits left pads rest
    else
      match base64Value? c with
      | none => base64Rest bytes digits left pads rest
      | some value =>
        match digits with
        | 0 => base64Rest bytes 1 value 0 rest
        | 1 => base64Rest ((left * 4 + value / 16) :: bytes) 2 (value % 16) 0 rest
        | 2 => base64Rest ((left * 16 + value / 4) :: bytes) 3 (value % 4) 0 rest
        | _ => base64Rest ((left * 64 + value) :: bytes) 0 0 0 rest

def base64Decode (cs : List Char) : Option (List Nat) :=
  base64Rest [] 0 0 0 cs

end Typescribe.Yaml
