/-!
This module contains the fewest decimal digits that identify a binary floating-point number: of all
decimals that round to the number those with the fewest digits, and of these the nearest one.
-/

namespace Typescribe.Decimal

/-- The positive number `significand * 2 ^ exponent`. -/
structure Binary where
  significand : Nat
  exponent : Int
  /-- Is the number below it only half as far away as the number above it? -/
  isBoundary : Bool
deriving Repr

structure Digits where
  digits : Nat
  exponent : Int
deriving DecidableEq, Repr

/-- A quotient of naturals, the denominator being positive in all uses. -/
structure Ratio where
  num : Nat
  den : Nat

namespace Ratio

/-- Is the first ratio at most the second one? -/
def ble (a b : Ratio) : Bool :=
  a.num * b.den ≤ b.num * a.den

def blt (a b : Ratio) : Bool :=
  a.num * b.den < b.num * a.den

def scaled (n base : Nat) (exponent : Int) : Ratio :=
  if 0 ≤ exponent then
    ⟨n * base.pow exponent.toNat, 1⟩
  else
    ⟨n, base.pow (-exponent).toNat⟩

def shift (a : Ratio) (exponent : Int) : Ratio :=
  if 0 ≤ exponent then
    ⟨a.num, a.den * Nat.pow 10 exponent.toNat⟩
  else
    ⟨a.num * Nat.pow 10 (-exponent).toNat, a.den⟩

end Ratio

/-- The count of decimal digits of a number; zero has one. -/
def digitCount (n : Nat) : Nat :=
  (Nat.toDigits 10 n).length

def magnitude (a : Ratio) : Int :=
  if a.den ≤ a.num then
    digitCount (a.num / a.den) - 1
  else
    -(digitCount ((a.den + a.num - 1) / a.num - 1) : Int)

namespace Binary

def fourfold (b : Binary) : Ratio :=
  Ratio.scaled (4 * b.significand) 2 b.exponent

def fourfoldLow (b : Binary) : Ratio :=
  Ratio.scaled (4 * b.significand - (if b.isBoundary then 1 else 2)) 2 b.exponent

def fourfoldHigh (b : Binary) : Ratio :=
  Ratio.scaled (4 * b.significand + 2) 2 b.exponent

/-- Does the decimal round to the number? The ends of the interval do if the significand is even. -/
def accepts (b : Binary) (d : Digits) : Bool :=
  let point := Ratio.scaled (4 * d.digits) 10 d.exponent
  if b.significand % 2 = 0 then
    b.fourfoldLow.ble point && point.ble b.fourfoldHigh
  else
    b.fourfoldLow.blt point && point.blt b.fourfoldHigh

/--
The decimal with `count` digits that rounds to the number and is nearest to it, if there is one; of
two that are equally near the one with the even last digit.
-/
def candidate? (b : Binary) (count : Nat) : Option Digits :=
  let value : Ratio := ⟨b.fourfold.num, 4 * b.fourfold.den⟩
  let exponent := magnitude value - count + 1
  let scaled := value.shift exponent
  let floor := scaled.num / scaled.den
  let below : Digits := ⟨floor, exponent⟩
  let above : Digits := ⟨floor + 1, exponent⟩
  let twiceRest := 2 * (scaled.num % scaled.den)
  let preferBelow := twiceRest < scaled.den || (twiceRest = scaled.den && floor % 2 = 0)
  match b.accepts below, b.accepts above with
  | true, true => some (if preferBelow then below else above)
  | true, false => some below
  | false, true => some above
  | false, false => none

def stripZeros : (fuel : Nat) → Digits → Digits
  | 0, d => d
  | fuel + 1, d =>
    if d.digits ≠ 0 ∧ d.digits % 10 = 0 then
      stripZeros fuel ⟨d.digits / 10, d.exponent + 1⟩
    else
      d

/--
The shortest decimal that rounds to the number. Seventeen digits are always enough for a double, so
the default is never reached for one.
-/
def shortest (b : Binary) : Digits :=
  let found := (List.range 17).findSome? fun i => b.candidate? (i + 1)
  stripZeros 20 (found.getD ⟨0, 0⟩)

end Binary

def fractionCount : Nat := 0x10000000000000

def Binary.ofBits (bits : Nat) : Binary :=
  let field : Nat := bits / fractionCount % 0x800
  let fraction : Nat := bits % fractionCount
  if field = 0 then
    ⟨fraction, -1074, false⟩
  else
    ⟨fractionCount + fraction, (field : Int) - 1075, fraction = 0 && 1 < field⟩

end Typescribe.Decimal
