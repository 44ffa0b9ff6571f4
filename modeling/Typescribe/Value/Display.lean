import Typescribe.Decimal.Layout
import Typescribe.Text.Quoted
import Typescribe.Value.Basic

/-!
This module contains the display of values: as plain text for flags and choice labels, and in the
nested form in which texts stand in quotes.
-/

namespace Typescribe

namespace Date

def iso (d : Date) : String :=
  Decimal.padded 4 d.year ++ "-" ++ Decimal.padded 2 d.month ++ "-" ++ Decimal.padded 2 d.day

end Date

namespace Moment

def isoOffset (minutes : Int) : String :=
  (if minutes < 0 then "-" else "+") ++ Decimal.padded 2 (minutes.natAbs / 60) ++ ":"
    ++ Decimal.padded 2 (minutes.natAbs % 60)

def iso (separator : String) (m : Moment) : String :=
  m.date.iso ++ separator ++ Decimal.padded 2 m.hour ++ ":" ++ Decimal.padded 2 m.minute ++ ":"
    ++ Decimal.padded 2 m.second
    ++ (if m.microsecond = 0 then "" else "." ++ Decimal.padded 6 m.microsecond)
    ++ (match m.offset with
      | none => ""
      | some minutes => isoOffset minutes)

def nestedOffset (minutes : Int) : String :=
  if minutes = 0 then
    "datetime.timezone.utc"
  else
    let seconds := minutes * 60
    let days := seconds / 86400
    let rest := seconds % 86400
    "datetime.timezone(datetime.timedelta("
      ++ (if days = 0 then "" else "days=" ++ toString days ++ (if rest = 0 then "" else ", "))
      ++ (if rest = 0 then "" else "seconds=" ++ toString rest) ++ "))"

/-- How a moment is shown inside a list: seconds and fractions only where they are not zero. -/
def nested (m : Moment) : String :=
  let parts := [m.date.year, m.date.month, m.date.day, m.hour, m.minute]
    ++ (if m.second = 0 ∧ m.microsecond = 0 then [] else [m.second])
    ++ (if m.microsecond = 0 then [] else [m.microsecond])
  "datetime.datetime(" ++ String.intercalate ", " (parts.map Nat.repr)
    ++ (match m.offset with
      | none => ""
      | some minutes => ", tzinfo=" ++ nestedOffset minutes) ++ ")"

end Moment

namespace Value

def displayByte (quote : Char) (byte : Nat) : List Char :=
  let c := Char.ofNat byte
  if c = quote || c = '\\' then ['\\', c]
  else if c = '\n' then ['\\', 'n']
  else if c = '\r' then ['\\', 'r']
  else if c = '\t' then ['\\', 't']
  else if 0x20 ≤ byte && byte < 0x7F then [c]
  else '\\' :: 'x' :: Text.hex 2 byte

def displayBytes (bytes : List Nat) : String :=
  let quote := if bytes.contains 0x27 && !bytes.contains 0x22 then '"' else '\''
  String.ofList ('b' :: quote :: bytes.flatMap (displayByte quote) ++ [quote])

def shortened : Value → String
  | mapping _ => "\x7b...\x7d"
  | tuple _ => "(...)"
  | _ => "[...]"

abbrev Around := List (List Nat × String)

mutual

def nestedIn (around : Around) : Value → String
  | null => "None"
  | bool true => "True"
  | bool false => "False"
  | int n => toString n
  | float x => Decimal.plain.text x
  | text s => String.ofList (Text.display s.toList)
  | list items => "[" ++ String.intercalate ", " (nestedList around items) ++ "]"
  | mapping pairs =>
    "\x7b" ++ String.intercalate ", " (nestedPairs around pairs) ++ "\x7d"
  | date d =>
    "datetime.date(" ++ String.intercalate ", " ([d.year, d.month, d.day].map Nat.repr) ++ ")"
  | moment m => m.nested
  | bytes bs => displayBytes bs
  | set [] => "set()"
  | set items => "\x7b" ++ String.intercalate ", " (nestedList around items) ++ "\x7d"
  | tuple items =>
    let comma := if items.length = 1 then "," else ""
    "(" ++ String.intercalate ", " (nestedList around items) ++ comma ++ ")"
  | loop label content =>
    match around.lookup label with
    | some short => short
    | none => nestedIn ((label, content.shortened) :: around) content
  | back label => (around.lookup label).getD "..."

def nestedList (around : Around) : List Value → List String
  | [] => []
  | item :: items => nestedIn around item :: nestedList around items

def nestedPairs (around : Around) : List (Value × Value) → List String
  | [] => []
  | (key, value) :: pairs =>
    (nestedIn around key ++ ": " ++ nestedIn around value) :: nestedPairs around pairs

end

def nested (value : Value) : String :=
  value.nestedIn []

/-- A value as plain text: a text is itself, and dates stand in their ISO form. -/
def shown : Value → String
  | text s => s
  | date d => d.iso
  | moment m => m.iso " "
  | value => value.nested

end Value

end Typescribe
