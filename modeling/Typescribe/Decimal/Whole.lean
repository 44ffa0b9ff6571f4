import Typescribe.Text.Blank
import Typescribe.Text.Digit
import Typescribe.Text.Hex

/-!
This module contains the reading of whole numbers as people write them: with a sign, in the digits
of any script, and with white space around them.
-/

namespace Typescribe.Decimal

def isSpace (c : Char) : Bool :=
  Text.isBlank c && !(0x1C ≤ c.toNat && c.toNat ≤ 0x1F)

def strip (cs : List Char) : List Char :=
  ((cs.dropWhile isSpace).reverse.dropWhile isSpace).reverse

def digit? (base : Nat) (c : Char) : Option Nat :=
  ((Text.digitValue? c).or (Text.hexValue? c)).filter (· < base)

def digits? (base : Nat) : List Char → Option (List Nat)
  | [] => none
  | [c] => (digit? base c).map ([·])
  | c :: '_' :: rest => do return (← digit? base c) :: (← digits? base rest)
  | c :: rest => do return (← digit? base c) :: (← digits? base rest)

def markLetters (base : Nat) : List Char :=
  if base = 2 then ['b', 'B']
  else if base = 8 then ['o', 'O']
  else if base = 16 then ['x', 'X']
  else []

/-- Digits without the mark of their base; an underscore can stand behind the mark. -/
def withoutMark (base : Nat) : List Char → List Char
  | c :: letter :: rest =>
    if Text.digitValue? c = some 0 && (markLetters base).contains letter then
      if rest.head? = some '_' then rest.tail else rest
    else c :: letter :: rest
  | cs => cs

/-- What a text is that was read as a whole number. -/
inductive WholeText where
  | number (n : Int)
  | none
  | tooLong (count : Nat)
deriving DecidableEq, Repr

/-- The greatest count of digits that are read, unless the base is a power of two. -/
def maxDigits : Nat := 4300

def readWhole (base : Nat) (cs : List Char) : WholeText :=
  let cs := strip cs
  let isNegative := cs.head? = some '-'
  let unsigned := withoutMark base (if isNegative || cs.head? = some '+' then cs.tail else cs)
  let isInside := fun c => c = '_' || (digit? base c).isSome
  match digits? base (unsigned.takeWhile isInside) with
  | Option.none => .none
  | some digits =>
    if base = 10 && maxDigits < digits.length then .tooLong digits.length
    else if (unsigned.dropWhile isInside).isEmpty then
      let n : Nat := digits.foldl (fun n digit => n * base + digit) 0
      .number (if isNegative then -n else n)
    else .none

def tooLongText (count : Nat) : String :=
  "Exceeds the limit (" ++ toString maxDigits
    ++ " digits) for integer string conversion: value has " ++ toString count ++ " digits; use sys.set_int_max_str_digits() to increase the limit"

def isPrintable (n : Int) : Bool :=
  n.natAbs < Nat.pow 10 maxDigits

def unprintableText : String :=
  "Exceeds the limit (" ++ toString maxDigits ++ " digits) for integer string conversion; "
    ++ "use sys.set_int_max_str_digits() to increase the limit"

end Typescribe.Decimal
