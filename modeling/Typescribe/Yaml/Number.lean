import Typescribe.Decimal.Reading
import Typescribe.Decimal.Whole
import Typescribe.Fault
import Typescribe.Text.LowerCase
import Typescribe.Text.Quoted
import Typescribe.Yaml.Tag

/-!
This module contains the values of numbers in YAML: integers in several bases, and numbers with a
point.
-/

namespace Typescribe.Yaml

def sexagesimal (parts : List Int) : Int :=
  parts.foldl (fun n part => n * 60 + part) 0

def integerOf (text : List Char) : Except Cause Int := do
  let cs := text.filter (· ≠ '_')
  let magnitude ←
    match Decimal.unsigned cs with
    | [] => .error (.other "IndexError")
    | ['0'] => .ok 0
    | '0' :: 'b' :: rest => readInteger 2 rest
    | '0' :: 'x' :: rest => readInteger 16 rest
    | '0' :: rest => readInteger 8 ('0' :: rest)
    | digits =>
      if digits.contains ':' then do
        let parts ← (colonParts digits).mapM (readInteger 10)
        pure (sexagesimal parts)
      else readInteger 10 digits
  return if cs.head? = some '-' then -magnitude else magnitude

def usualDigit (c : Char) : Char :=
  match Text.digitValue? c with
  | some n => Char.ofNat (0x30 + n)
  | none => c

def readDouble (cs : List Char) : Except Cause Float :=
  match Decimal.read? ((Decimal.strip cs).map usualDigit) with
  | some x => .ok x
  | none =>
    .error (.badValue ("could not convert string to float: "
      ++ String.ofList (Text.display cs)))

/-- The double nearest to a whole number, which must be in the range of doubles. -/
def nearestDouble (n : Nat) : Except Cause Float :=
  let x := Decimal.toFloat n 0
  if x.isInf then .error .overflow else .ok x

/-- The value of parts between colons, the last part first; each is sixty of the one before. -/
def sexagesimalDouble : List Float → (base : Nat) → (value : Float) → Except Cause Float
  | [], _, value => .ok value
  | part :: parts, base, value => do
    sexagesimalDouble parts (base * 60) (value + part * (← nearestDouble base))

def isNoNumber (text : List Char) : Bool :=
  Decimal.unsigned (Text.lowerCase (text.filter (· ≠ '_'))) = ".nan".toList

def doubleOf (text : List Char) : Except Cause Float := do
  let cs := Text.lowerCase (text.filter (· ≠ '_'))
  let digits := Decimal.unsigned cs
  let magnitude ←
    if cs.isEmpty then .error (.other "IndexError")
    else if digits = ".inf".toList then .ok Decimal.infinity
    else if isNoNumber text then .ok Decimal.notANumber
    else if digits.contains ':' then do
      let parts ← (colonParts digits).mapM readDouble
      sexagesimalDouble parts.reverse 1 0.0
    else readDouble digits
  return if cs.head? = some '-' then -magnitude else magnitude

end Typescribe.Yaml
