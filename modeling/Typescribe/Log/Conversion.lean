import Typescribe.Log.Directive
import Typescribe.Value.Probe

/-!
This module contains the texts that arguments have under a directive: texts, whole numbers in
several bases, and numbers with a point.
-/

namespace Typescribe.Log

/-- The layout of a directive whose counts are known. -/
structure Field where
  flags : Flags := {}
  width : Nat := 0
  precision : Option Nat := none
deriving DecidableEq, Repr

inductive Conversion where
  | shown
  | nested
  /-- As it is shown inside a list, in ASCII only. -/
  | ascii
  | decimal
  | octal
  | hexadecimal (upper : Bool)
  | scientific (upper : Bool)
  | fixed (upper : Bool)
  | general (upper : Bool)
  | character
deriving DecidableEq, Repr

def conversions : List (Char × Conversion) := [
  ('s', .shown), ('r', .nested), ('a', .ascii), ('d', .decimal), ('i', .decimal), ('u', .decimal),
  ('o', .octal), ('x', .hexadecimal false), ('X', .hexadecimal true), ('e', .scientific false),
  ('E', .scientific true), ('f', .fixed false), ('F', .fixed true), ('g', .general false),
  ('G', .general true), ('c', .character)
]

def blanks (count : Int) : String :=
  String.ofList (List.replicate count.toNat ' ')

def Field.text (field : Field) (s : String) : String :=
  let s :=
    match field.precision with
    | some n => String.ofList (s.toList.take n)
    | none => s
  let missing := blanks (field.width - s.length)
  if field.flags.leftAligned then s ++ missing else missing ++ s

def Flags.sign (flags : Flags) (negative : Bool) : String :=
  if negative then "-" else if flags.plus then "+" else if flags.blank then " " else ""

/-- A number in its field: its sign, the mark of its base, and its digits. -/
def Field.number (field : Field) (negative : Bool) (base digits : String) : String :=
  let start := field.flags.sign negative ++ base
  let missing : Int := field.width - (start.length + digits.length)
  if field.flags.leftAligned then start ++ digits ++ blanks missing
  else if field.flags.zeros then
    start ++ String.ofList (List.replicate missing.toNat '0') ++ digits
  else blanks missing ++ start ++ digits

def inCase (upper : Bool) (s : String) : String :=
  if upper then s.map Char.toUpper else s

def Field.whole (field : Field) (base : Nat) (mark : String) (upper : Bool) (n : Int) : String :=
  let digits := Nat.toDigits base n.natAbs
  let zeros := List.replicate (field.precision.getD 0 - digits.length) '0'
  field.number (n < 0) (if field.flags.alternate then mark else "")
    (inCase upper (String.ofList (zeros ++ digits)))

/-- A double in its field; `finite` is the text of a finite one without its sign. -/
def Field.double (field : Field) (upper : Bool) (x : Float) (finite : Decimal.Ratio → String) :
    String :=
  let digits :=
    if x.isNaN then "nan" else if x.isInf then "inf" else finite (Decimal.exactValue x)
  field.number (Decimal.isNegative x && !x.isNaN) "" (inCase upper digits)

/-- The whole number that a value denotes; a fraction is dropped. -/
def wholeOf : Value → Except Cause Int
  | .int n => .ok n
  | .bool b => .ok (if b then 1 else 0)
  | .float x => Value.wholePart x
  | _ => .error .wrongKind

def exactWholeOf : Value → Except Cause Int
  | .int n => .ok n
  | .bool b => .ok (if b then 1 else 0)
  | _ => .error .wrongKind

/-- The double that a value denotes; whole numbers beyond all doubles denote none. -/
def doubleOf : Value → Except Cause Float
  | .float x => .ok x
  | value => do
    let x := Float.ofInt (← exactWholeOf value)
    if x.isInf then .error .overflow else return x

/-- The character that a value denotes: that of a text of one character, or that of a number. -/
def characterOf : Value → Except Cause String
  | .text s => if s.length = 1 then .ok s else .error .wrongKind
  | value => do
    let n ← exactWholeOf value
    if 0 ≤ n ∧ n < 0x110000 then return String.singleton (Char.ofNat n.toNat)
    else .error .overflow

def asciiChar (c : Char) : List Char :=
  let n := c.toNat
  if n < 0x80 then [c]
  else if n < 0x100 then '\\' :: 'x' :: Text.hex 2 n
  else if n < 0x10000 then '\\' :: 'u' :: Text.hex 4 n
  else '\\' :: 'U' :: Text.hex 8 n

def Conversion.text (field : Field) (value : Value) : Conversion → Except Cause String
  | shown => .ok (field.text value.shown)
  | nested => .ok (field.text value.nested)
  | ascii => .ok (field.text (String.ofList (value.nested.toList.flatMap asciiChar)))
  | decimal => do return field.whole 10 "" false (← wholeOf value)
  | octal => do return field.whole 8 "0o" false (← exactWholeOf value)
  | hexadecimal upper => do
    return field.whole 16 (if upper then "0X" else "0x") upper (← exactWholeOf value)
  | scientific upper => do
    return field.double upper (← doubleOf value)
      (Decimal.scientificText field.flags.alternate (field.precision.getD 6))
  | fixed upper => do
    return field.double upper (← doubleOf value)
      (Decimal.fixedText field.flags.alternate (field.precision.getD 6))
  | general upper => do
    return field.double upper (← doubleOf value)
      (Decimal.generalText field.flags.alternate (field.precision.getD 6))
  | character => do return { field with precision := none }.text (← characterOf value)

def greatestFill : Nat := 0x40000000

def greatestWholePrecision : Nat := 0x7FFFFFFC

def Conversion.isWhole : Conversion → Bool
  | decimal | octal | hexadecimal _ => true
  | _ => false

def Conversion.isNumber : Conversion → Bool
  | scientific _ | fixed _ | general _ => true
  | conversion => conversion.isWhole

/-- The text of a value in its field, unless no memory can hold it. -/
def Conversion.boundedText (field : Field) (value : Value) (conversion : Conversion) :
    Except Cause String := do
  let digits := if conversion.isNumber then field.precision.getD 0 else 0
  if field.width ≤ greatestFill ∧ digits ≤ greatestFill then
    conversion.text field value
  else
    discard (conversion.text { flags := field.flags } value)
    if conversion.isWhole ∧ greatestWholePrecision < digits then .error .overflow
    else .error .memory

end Typescribe.Log
