import Typescribe.Decimal.Shortest

/-!
This module contains the text of floating-point numbers: the shortest digits that read back, laid
out with or without an exponent.
-/

namespace Typescribe.Decimal

/-- How the digits of a number are laid out, and the words for what is no finite number. -/
structure Layout where
  leastPositional : Int
  leastScientific : Int
  /-- The least count of digits of a written exponent. -/
  exponentDigits : Nat
  notANumber : String
  infinity : String
deriving Repr

def padded (width n : Nat) : String :=
  let digits := (Nat.repr n).toList
  String.ofList (List.replicate (width - digits.length) '0' ++ digits)

def exponentText (width : Nat) (exponent : Int) : String :=
  "e" ++ (if exponent < 0 then "-" else "+") ++ padded width exponent.natAbs

def Layout.positive (layout : Layout) (d : Digits) : String :=
  let digits := (Nat.repr d.digits).toList
  let count := digits.length
  let exponent : Int := d.exponent + count - 1
  if exponent < layout.leastPositional ∨ layout.leastScientific ≤ exponent then
    let mantissa :=
      match digits with
      | first :: second :: rest => String.ofList (first :: '.' :: second :: rest)
      | digits => String.ofList digits
    mantissa ++ exponentText layout.exponentDigits exponent
  else if exponent < 0 then
    "0." ++ String.ofList (List.replicate (exponent.natAbs - 1) '0' ++ digits)
  else
    let whole := exponent.toNat + 1
    if count ≤ whole then
      String.ofList (digits ++ List.replicate (whole - count) '0') ++ ".0"
    else
      String.ofList (digits.take whole) ++ "." ++ String.ofList (digits.drop whole)

/-- The bits of the infinite double. Those of a finite one without its sign are a smaller number. -/
def infinityBits : Nat := 0x7FF0000000000000

def signBit : Nat := 0x8000000000000000

def Layout.text (layout : Layout) (x : Float) : String :=
  let bits := x.toBits.toNat
  let sign := if signBit ≤ bits then "-" else ""
  let magnitude := bits % signBit
  if magnitude = 0 then
    sign ++ "0.0"
  else if magnitude < infinityBits then
    sign ++ layout.positive (Binary.ofBits magnitude).shortest
  else if magnitude = infinityBits then
    sign ++ layout.infinity
  else
    layout.notANumber

/--
Positional from four zeros behind the point up to sixteen digits before it, with at least one digit
behind the point; otherwise an exponent with a sign and at least two digits.
-/
def plain : Layout := ⟨-4, 16, 2, "nan", "inf"⟩

def json : Layout := ⟨-4, 16, 2, "NaN", "Infinity"⟩

end Typescribe.Decimal
