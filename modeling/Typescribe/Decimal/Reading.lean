/-!
This module contains the reading of decimal numbers: digits to naturals, and decimals to the nearest
double.
-/

namespace Typescribe.Decimal

def ofDigits (cs : List Char) : Nat :=
  cs.foldl (fun n c => n * 10 + (c.toNat - 0x30)) 0

def infinity : Float := 1.0 / 0.0

def notANumber : Float := 0.0 / 0.0

/--
The double nearest to `digits * 10 ^ exponent`. Numbers far beyond the range of doubles are settled
by their magnitude, so that no huge power is computed.
-/
def toFloat (digits : Nat) (exponent : Int) : Float :=
  let count : Int := (Nat.toDigits 10 digits).length
  if digits = 0 ∨ exponent + count < -400 then
    0.0
  else if 400 < exponent + count then
    infinity
  else
    Float.ofScientific digits (exponent < 0) exponent.natAbs

def unsigned : List Char → List Char
  | '+' :: rest => rest
  | '-' :: rest => rest
  | cs => cs

/--
The double nearest to the decimal with the given digits before and behind the point.
-/
def ofParts (whole fraction : List Char) (exponent : Int) : Float :=
  toFloat (ofDigits (whole ++ fraction)) (exponent - fraction.length)

/--
The exponent behind the digits of a number: nothing, or an `e` with digits and perhaps a sign.
-/
def exponent? : List Char → Option Int
  | [] => some 0
  | 'e' :: rest =>
    let digits := unsigned rest
    if digits.isEmpty || !digits.all Char.isDigit then none
    else if rest.head? = some '-' then some (-(ofDigits digits : Int))
    else some (ofDigits digits)
  | _ => none

def readUnsigned? (cs : List Char) : Option Float :=
  if cs = "inf".toList ∨ cs = "infinity".toList then some infinity
  else if cs = "nan".toList then some notANumber
  else
    let whole := cs.takeWhile Char.isDigit
    let rest := cs.dropWhile Char.isDigit
    let (fraction, rest) :=
      match rest with
      | '.' :: rest => (rest.takeWhile Char.isDigit, rest.dropWhile Char.isDigit)
      | rest => ([], rest)
    if whole.isEmpty && fraction.isEmpty then none
    else (exponent? rest).map (ofParts whole fraction)

def read? (cs : List Char) : Option Float :=
  (readUnsigned? (unsigned cs)).map fun x => if cs.head? = some '-' then -x else x

end Typescribe.Decimal
