import Typescribe.Decimal.Layout

/-!
This module contains the texts of floating-point numbers with a given count of digits: with places
behind the point, with an exponent, or with whichever of the two is fit for the number. Digits are
rounded from the exact value, and a half goes to the even neighbour.
-/

namespace Typescribe.Decimal

/-- The nearest natural number; of two that are equally near the even one. -/
def Ratio.round (a : Ratio) : Nat :=
  let floor := a.num / a.den
  let twiceRest := 2 * (a.num % a.den)
  if twiceRest < a.den || (twiceRest = a.den && floor % 2 = 0) then floor else floor + 1

def exactValue (x : Float) : Ratio :=
  let b := Binary.ofBits (x.toBits.toNat % signBit)
  Ratio.scaled b.significand 2 b.exponent

def isNegative (x : Float) : Bool :=
  signBit ≤ x.toBits.toNat

def truncate (x : Float) : Int :=
  let value := exactValue x
  let whole : Nat := value.num / value.den
  if isNegative x then -whole else whole

/--
Digits with a point in front of the last ones. A point with nothing behind it is only written if it
is to be kept.
-/
def withPoint (keepsPoint : Bool) (places digits : Nat) : String :=
  let all := (padded (places + 1) digits).toList
  let fraction := all.drop (all.length - places)
  String.ofList (all.take (all.length - places)
    ++ (if fraction.isEmpty && !keepsPoint then [] else '.' :: fraction))

def withoutZeros (s : String) : String :=
  if s.toList.contains '.' then
    let reversed := s.toList.reverse.dropWhile (· = '0')
    String.ofList (if reversed.head? = some '.' then reversed.tail else reversed).reverse
  else s

def fixedText (keepsPoint : Bool) (places : Nat) (a : Ratio) : String :=
  withPoint keepsPoint places (a.shift (-places)).round

def rounded (places : Nat) (a : Ratio) : Nat × Int :=
  if a.num = 0 then
    (0, 0)
  else
    let exponent := magnitude a
    let digits := (a.shift (exponent - places)).round
    if digits = Nat.pow 10 (places + 1) then (digits / 10, exponent + 1) else (digits, exponent)

def scientificText (keepsPoint : Bool) (places : Nat) (a : Ratio) : String :=
  let (digits, exponent) := rounded places a
  withPoint keepsPoint places digits ++ exponentText 2 exponent

/--
The text of a ratio with the given count of digits. Numbers that are very small or have more whole
digits than that are written with an exponent; zeros at the end are dropped unless the point is
kept.
-/
def generalText (keepsPoint : Bool) (count : Nat) (a : Ratio) : String :=
  let places := max 1 count - 1
  let trim (s : String) : String := if keepsPoint then s else withoutZeros s
  let (digits, exponent) := rounded places a
  if exponent < -4 ∨ (places : Int) < exponent then
    trim (withPoint keepsPoint places digits) ++ exponentText 2 exponent
  else
    trim (withPoint keepsPoint (places - exponent).toNat digits)

end Typescribe.Decimal
