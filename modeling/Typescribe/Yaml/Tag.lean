import Typescribe.Decimal.Reading

/-!
This module contains the tags of YAML nodes, and the tag that a plain scalar has by its text alone.
-/

namespace Typescribe.Yaml

inductive Tag where
  | null
  | bool
  | int
  | float
  | binary
  | timestamp
  | omap
  | pairs
  | set
  | str
  | seq
  | map
  | merge
  | value
  | other (name : List Char)
deriving DecidableEq, Repr

def standardStart : List Char := "tag:yaml.org,2002:".toList

def standardTags : List (String × Tag) := [
  ("null", .null), ("bool", .bool), ("int", .int), ("float", .float), ("binary", .binary),
  ("timestamp", .timestamp), ("omap", .omap), ("pairs", .pairs), ("set", .set), ("str", .str),
  ("seq", .seq), ("map", .map), ("merge", .merge), ("value", .value)
]

def Tag.ofName (name : List Char) : Tag :=
  if standardStart.isPrefixOf name then
    (standardTags.lookup (String.ofList (name.drop standardStart.length))).getD (.other name)
  else .other name

/-! ### Shapes of plain scalars -/

def isDigitOrLow (c : Char) : Bool :=
  c.isDigit || c = '_'

def boolTexts : List String := [
  "yes", "Yes", "YES", "no", "No", "NO", "true", "True", "TRUE", "false", "False", "FALSE", "on",
  "On", "ON", "off", "Off", "OFF"
]

/-- The words for null; the empty text is one. -/
def nullTexts : List String := ["~", "null", "Null", "NULL", ""]

def isSixtieth : List Char → Bool
  | [c] => c.isDigit
  | [c, d] => '0' ≤ c && c ≤ '5' && d.isDigit
  | _ => false

def colonParts (cs : List Char) : List (List Char) :=
  go cs []
where
  go : List Char → List Char → List (List Char)
    | [], current => [current.reverse]
    | c :: rest, current =>
      if c = ':' then current.reverse :: go rest [] else go rest (c :: current)

/-- Is the text an integer in base sixty: numbers between colons? -/
def isSexagesimal (startsWithZero : Bool) (cs : List Char) : Bool :=
  match colonParts cs with
  | (c :: whole) :: part :: parts =>
    c.isDigit && (startsWithZero || c ≠ '0') && whole.all isDigitOrLow
      && (part :: parts).all isSixtieth
  | _ => false

def isIntText (cs : List Char) : Bool :=
  match Decimal.unsigned cs with
  | '0' :: 'b' :: c :: rest => (c :: rest).all fun x => x = '0' || x = '1' || x = '_'
  | '0' :: 'x' :: c :: rest =>
    (c :: rest).all fun x =>
      isDigitOrLow x || ('a' ≤ x && x ≤ 'f') || ('A' ≤ x && x ≤ 'F')
  | '0' :: rest => rest.all fun x => ('0' ≤ x && x ≤ '7') || x = '_'
  | c :: rest =>
    (c.isDigit && rest.all isDigitOrLow) || isSexagesimal false (c :: rest)
  | [] => false

def isExponentText : List Char → Bool
  | [] => true
  | e :: sign :: c :: rest =>
    (e = 'e' || e = 'E') && (sign = '+' || sign = '-') && (c :: rest).all Char.isDigit
  | _ => false

def isFractionText : List Char → Bool
  | '.' :: rest => isExponentText (rest.dropWhile isDigitOrLow)
  | _ => false

def isFloatText (cs : List Char) : Bool :=
  let digits := Decimal.unsigned cs
  let pointText :=
    match digits with
    | c :: rest => c.isDigit && isFractionText (rest.dropWhile isDigitOrLow)
    | [] => false
  let bareFraction :=
    match cs with
    | '.' :: c :: rest => c.isDigit && isExponentText (rest.dropWhile isDigitOrLow)
    | _ => false
  let sexagesimal :=
    isSexagesimal true (digits.takeWhile (· ≠ '.'))
      && (match digits.dropWhile (· ≠ '.') with
        | '.' :: rest => rest.all isDigitOrLow
        | _ => false)
  pointText || bareFraction || sexagesimal
    || [".inf", ".Inf", ".INF"].contains (String.ofList digits)
    || [".nan", ".NaN", ".NAN"].contains (String.ofList cs)

/-- Splits off digits, of which there must be at least and at most the given counts. -/
def takeDigits (least most : Nat) (cs : List Char) : Option (List Char × List Char) :=
  let digits := (cs.take most).takeWhile Char.isDigit
  if least ≤ digits.length then some (digits, cs.drop digits.length) else none

def takeChar (c : Char) : List Char → Option (List Char)
  | first :: rest => if first = c then some rest else none
  | [] => none

/-- The parts of a date, and of a time if there is one, as digits. -/
structure TimestampText where
  year : List Char
  month : List Char
  day : List Char
  time : Option (List Char × List Char × List Char) := none
  fraction : List Char := []
  zone : Option (Bool × List Char × List Char) := none

def readZone (cs : List Char) : Option (Option (Bool × List Char × List Char)) :=
  match cs.dropWhile fun c => c = ' ' || c = '\t' with
  | [] => if cs.isEmpty then some none else none
  | ['Z'] => some (some (false, ['0'], ['0']))
  | sign :: rest =>
    if sign = '+' || sign = '-' then do
      let (hours, rest) ← takeDigits 1 2 rest
      match rest with
      | [] => some (some (sign = '-', hours, ['0']))
      | ':' :: rest =>
        let (minutes, rest) ← takeDigits 2 2 rest
        if rest.isEmpty then some (some (sign = '-', hours, minutes)) else none
      | _ => none
    else none

def readTime (date : TimestampText) (cs : List Char) : Option TimestampText := do
  let rest ←
    match cs with
    | 'T' :: rest => some rest
    | 't' :: rest => some rest
    | c :: rest =>
      if c = ' ' || c = '\t' then some (rest.dropWhile fun c => c = ' ' || c = '\t') else none
    | [] => none
  let (hour, rest) ← takeDigits 1 2 rest
  let (minute, rest) ← takeDigits 2 2 (← takeChar ':' rest)
  let (second, rest) ← takeDigits 2 2 (← takeChar ':' rest)
  let (fraction, rest) :=
    match rest with
    | '.' :: rest => (rest.takeWhile Char.isDigit, rest.dropWhile Char.isDigit)
    | rest => ([], rest)
  let zone ← readZone rest
  return { date with time := some (hour, minute, second), fraction, zone }

/-- Reads a timestamp: a date, and perhaps a time behind it. -/
def readTimestamp (cs : List Char) : Option TimestampText := do
  let (year, rest) ← takeDigits 4 4 cs
  let (month, rest) ← takeDigits 1 2 (← takeChar '-' rest)
  let (day, rest) ← takeDigits 1 2 (← takeChar '-' rest)
  let date : TimestampText := { year, month, day }
  if rest.isEmpty then some date else readTime date rest

def isTimestampText (cs : List Char) : Bool :=
  match readTimestamp cs with
  | some t => t.time.isSome || (t.month.length = 2 && t.day.length = 2)
  | none => false

/-- The text without a line feed at its end, unless it is nothing but one. -/
def withoutFinalBreak (cs : List Char) : List Char :=
  if 1 < cs.length && cs.getLast? = some '\n' then cs.dropLast else cs

/--
The tag of a plain scalar without one of its own. A line feed at the end of the text does not count.
-/
def Tag.ofPlain (cs : List Char) : Tag :=
  let cs := withoutFinalBreak cs
  let text := String.ofList cs
  if boolTexts.contains text then .bool
  else if isFloatText cs then .float
  else if isIntText cs then .int
  else if text = "<<" then .merge
  else if nullTexts.contains text then .null
  else if isTimestampText cs then .timestamp
  else if text = "=" then .value
  else if ["!", "&", "*"].contains text then .other (standardStart ++ "yaml".toList)
  else .str

end Typescribe.Yaml
