import Typescribe.Decimal.Layout
import Typescribe.Decimal.Whole
import Typescribe.Text.Hex
import Typescribe.Value.Basic

/-!
This module contains the writing of values as JSON: ASCII only, one space behind commas and colons,
members in their order.
-/

namespace Typescribe.Json

def unicodeEscape (n : Nat) : List Char :=
  '\\' :: 'u' :: Text.hex 4 n

/-- A character inside a JSON string: characters above U+FFFF become a pair of surrogates. -/
def escapeChar (c : Char) : List Char :=
  if c = '"' then ['\\', '"']
  else if c = '\\' then ['\\', '\\']
  else if c = '\n' then ['\\', 'n']
  else if c = '\r' then ['\\', 'r']
  else if c = '\t' then ['\\', 't']
  else if c = '\x0c' then ['\\', 'f']
  else if c = '\x08' then ['\\', 'b']
  else
    let n := c.toNat
    if 0x20 ≤ n ∧ n < 0x7F then [c]
    else if n < 0x10000 then unicodeEscape n
    else
      unicodeEscape (0xD800 + (n - 0x10000) / 0x400)
        ++ unicodeEscape (0xDC00 + (n - 0x10000) % 0x400)

def quote (s : String) : String :=
  String.ofList ('"' :: s.toList.flatMap escapeChar ++ ['"'])

/-- What JSON has no form for: a value, or the key of a mapping, of the named kind. -/
inductive Unwritable where
  | value (kind : String)
  | key (kind : String)
  | endless
  | tooLong
deriving DecidableEq, Repr

def Unwritable.message : Unwritable → String
  | value kind => "Object of type " ++ kind ++ " is not JSON serializable"
  | key kind => "keys must be str, int, float, bool or None, not " ++ kind
  | endless => "Circular reference detected"
  | tooLong => Decimal.unprintableText

def Unwritable.kind : Unwritable → String
  | value _ | key _ => "TypeError"
  | endless | tooLong => "ValueError"

def writeWhole (n : Int) : Except Unwritable String :=
  if Decimal.isPrintable n then .ok (toString n) else .error .tooLong

def memberName : Value → Except Unwritable String
  | .text s => .ok s
  | .null => .ok "null"
  | .bool true => .ok "true"
  | .bool false => .ok "false"
  | .int n => writeWhole n
  | .float x => .ok (Decimal.json.text x)
  | key => .error (.key key.kindName)

mutual

def write : Value → Except Unwritable String
  | .null => .ok "null"
  | .bool true => .ok "true"
  | .bool false => .ok "false"
  | .int n => writeWhole n
  | .float x => .ok (Decimal.json.text x)
  | .text s => .ok (quote s)
  | .list items => do
    let parts ← writeItems items
    return "[" ++ String.intercalate ", " parts ++ "]"
  | .mapping pairs => do
    let parts ← writePairs pairs
    return "\x7b" ++ String.intercalate ", " parts ++ "\x7d"
  | .date d => .error (.value (Value.date d).kindName)
  | .moment m => .error (.value (Value.moment m).kindName)
  | .bytes bs => .error (.value (Value.bytes bs).kindName)
  | .set items => .error (.value (Value.set items).kindName)
  | .tuple items => do
    let parts ← writeItems items
    return "[" ++ String.intercalate ", " parts ++ "]"
  | .loop _ content => write content
  | .back _ => .error .endless

def writeItems : List Value → Except Unwritable (List String)
  | [] => .ok []
  | item :: items => do
    let part ← write item
    let parts ← writeItems items
    return part :: parts

def writePairs : List (Value × Value) → Except Unwritable (List String)
  | [] => .ok []
  | (key, value) :: pairs => do
    let name ← memberName key
    let part ← write value
    let parts ← writePairs pairs
    return (quote name ++ ": " ++ part) :: parts

end

end Typescribe.Json
