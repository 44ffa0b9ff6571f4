import Typescribe.Decimal.Reading
import Typescribe.Decimal.Whole
import Typescribe.Ordered
import Typescribe.Text.Hex
import Typescribe.Text.Surrogate
import Typescribe.Value.Basic

/-!
This module contains the reading of JSON texts. Beyond the standard, the words `NaN`, `Infinity` and
`-Infinity` are numbers; of two members with one name the later value stands, at the place of the
earlier one.
-/

namespace Typescribe.Json

inductive Unreadable where
  | malformed
  | tooManyDigits (count : Nat)
deriving DecidableEq, Repr

def skipSpace (cs : List Char) : List Char :=
  cs.dropWhile fun c => c = ' ' || c = '\t' || c = '\n' || c = '\r'

def simpleEscape? : Char → Option Char
  | '"' => some '"'
  | '\\' => some '\\'
  | '/' => some '/'
  | 'b' => some '\x08'
  | 'f' => some '\x0c'
  | 'n' => some '\n'
  | 'r' => some '\r'
  | 't' => some '\t'
  | _ => none

def consRead (c : Char) (read : Except Unreadable (List Char × List Char)) :
    Except Unreadable (List Char × List Char) :=
  read.map fun (s, rest) => (c :: s, rest)

/--
Reads the rest of a string behind its opening quote: its characters, and what follows the closing
quote.
-/
def readString : List Char → Except Unreadable (List Char × List Char)
  | [] => .error .malformed
  | '"' :: rest => .ok ([], rest)
  | '\\' :: 'u' :: a :: b :: c :: d :: '\\' :: 'u' :: e :: f :: g :: h :: rest =>
    match Text.ofHex? [a, b, c, d], Text.ofHex? [e, f, g, h] with
    | some first, some second =>
      if Text.isHighSurrogate first && Text.isLowSurrogate second then
        consRead (Text.pairChar first second) (readString rest)
      else
        consRead (Text.unitChar first) (readString ('\\' :: 'u' :: e :: f :: g :: h :: rest))
    | _, _ => .error .malformed
  | '\\' :: 'u' :: a :: b :: c :: d :: rest =>
    match Text.ofHex? [a, b, c, d] with
    | some unit => consRead (Text.unitChar unit) (readString rest)
    | none => .error .malformed
  | '\\' :: letter :: rest =>
    match simpleEscape? letter with
    | some c => consRead c (readString rest)
    | none => .error .malformed
  | c :: rest =>
    if c = '\\' || c.toNat < 0x20 then .error .malformed else consRead c (readString rest)

/-- Reads the fraction of a number: the digits behind a point, if there are any. -/
def readFraction : List Char → Option (List Char × List Char)
  | '.' :: rest =>
    match rest.takeWhile Char.isDigit with
    | [] => none
    | digits => some (digits, rest.dropWhile Char.isDigit)
  | _ => none

/-- Reads the exponent of a number: a letter `e`, perhaps a sign, and digits. -/
def readExponent : List Char → Option (Int × List Char)
  | e :: rest =>
    if e = 'e' || e = 'E' then
      let (negative, rest) :=
        match rest with
        | '-' :: rest => (true, rest)
        | '+' :: rest => (false, rest)
        | rest => (false, rest)
      match rest.takeWhile Char.isDigit with
      | [] => none
      | digits =>
        let n : Int := Decimal.ofDigits digits
        some (if negative then -n else n, rest.dropWhile Char.isDigit)
    else none
  | [] => none

/-- Reads the digits before the point: a zero, or digits that do not start with one. -/
def readWhole : List Char → Option (List Char × List Char)
  | '0' :: rest => some (['0'], rest)
  | c :: rest =>
    if c.isDigit then
      some (c :: rest.takeWhile Char.isDigit, rest.dropWhile Char.isDigit)
    else none
  | [] => none

/-- Reads a number: an integer, or a double if it has a fraction or an exponent. -/
def readNumber (cs : List Char) : Except Unreadable (Value × List Char) := do
  let (negative, unsigned) :=
    match cs with
    | '-' :: rest => (true, rest)
    | rest => (false, rest)
  match readWhole unsigned with
  | none => .error .malformed
  | some (whole, rest) =>
    let fraction? := readFraction rest
    let rest := (fraction?.map (·.2)).getD rest
    let exponent? := readExponent rest
    let rest := (exponent?.map (·.2)).getD rest
    if fraction?.isNone && exponent?.isNone then
      if Decimal.maxDigits < whole.length then .error (.tooManyDigits whole.length)
      else
        let n : Int := Decimal.ofDigits whole
        return (.int (if negative then -n else n), rest)
    else
      let fraction := (fraction?.map (·.1)).getD []
      let x := Decimal.ofParts whole fraction ((exponent?.map (·.1)).getD 0)
      return (.float (if negative then -x else x), rest)

def readAtom : List Char → Except Unreadable (Value × List Char)
  | 'n' :: 'u' :: 'l' :: 'l' :: rest => .ok (.null, rest)
  | 't' :: 'r' :: 'u' :: 'e' :: rest => .ok (.bool true, rest)
  | 'f' :: 'a' :: 'l' :: 's' :: 'e' :: rest => .ok (.bool false, rest)
  | 'N' :: 'a' :: 'N' :: rest => .ok (.float Decimal.notANumber, rest)
  | 'I' :: 'n' :: 'f' :: 'i' :: 'n' :: 'i' :: 't' :: 'y' :: rest =>
    .ok (.float Decimal.infinity, rest)
  | '-' :: 'I' :: 'n' :: 'f' :: 'i' :: 'n' :: 'i' :: 't' :: 'y' :: rest =>
    .ok (.float (-Decimal.infinity), rest)
  | cs => readNumber cs

def ofMembers (members : List (String × Value)) : Value :=
  .mapping ((Ordered.ofList members).map fun (name, value) => (.text name, value))

mutual

/-- Reads a value that starts at the first character. The fuel bounds the count of steps. -/
def readValue : (fuel : Nat) → List Char → Except Unreadable (Value × List Char)
  | 0, _ => .error .malformed
  | _ + 1, '"' :: rest => do
    let (s, after) ← readString rest
    return (.text (String.ofList s), after)
  | fuel + 1, '[' :: rest => do
    match skipSpace rest with
    | ']' :: after => return (.list [], after)
    | items =>
      let (values, after) ← readItems fuel items
      return (.list values, after)
  | fuel + 1, '{' :: rest => do
    match skipSpace rest with
    | '}' :: after => return (.mapping [], after)
    | members =>
      let (pairs, after) ← readMembers fuel members
      return (ofMembers pairs, after)
  | _ + 1, cs => readAtom cs

def readItems : (fuel : Nat) → List Char → Except Unreadable (List Value × List Char)
  | 0, _ => .error .malformed
  | fuel + 1, cs => do
    let (item, rest) ← readValue fuel cs
    match skipSpace rest with
    | ']' :: after => return ([item], after)
    | ',' :: rest =>
      let (items, after) ← readItems fuel (skipSpace rest)
      return (item :: items, after)
    | _ => .error .malformed

def readMembers : (fuel : Nat) → List Char →
    Except Unreadable (List (String × Value) × List Char)
  | 0, _ => .error .malformed
  | fuel + 1, '"' :: cs => do
    let (name, rest) ← readString cs
    match skipSpace rest with
    | ':' :: rest =>
      let (value, rest) ← readValue fuel (skipSpace rest)
      match skipSpace rest with
      | '}' :: after => return ([(String.ofList name, value)], after)
      | ',' :: rest =>
        let (members, after) ← readMembers fuel (skipSpace rest)
        return ((String.ofList name, value) :: members, after)
      | _ => .error .malformed
    | _ => .error .malformed
  | _ + 1, _ => .error .malformed

end

def read (text : String) : Except Unreadable Value := do
  let cs := skipSpace text.toList
  let (value, rest) ← readValue (cs.length + 1) cs
  if (skipSpace rest).isEmpty then return value else .error .malformed

end Typescribe.Json
