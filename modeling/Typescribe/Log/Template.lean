import Typescribe.Log.Conversion
import Typescribe.Ordered
import Typescribe.Text.Digit
import Typescribe.Text.Word

/-!
This module contains text templates: texts with directives behind percent signs, which stand for
arguments in their order or for attributes by their names.
-/

namespace Typescribe.Log

/-- What the directives of a template can still use. -/
structure Supply where
  left : List Value
  /-- The attributes, unless there are arguments only. -/
  attributes : Option (List (Value × Value)) := none

/-- The greatest count of its kind in a directive. -/
structure Limit where
  name : String
  greatest : Nat

def widthLimit : Limit := ⟨"width", 0x7FFFFFFFFFFFFFFF⟩

def precisionLimit : Limit := ⟨"precision", 0x7FFFFFFF⟩

namespace Supply

/-- Arguments in their order. -/
def inOrder (values : List Value) : Supply :=
  { left := values }

/-- Attributes by their names. All of them together are an argument as well. -/
def byName (attributes : List (Value × Value)) : Supply :=
  { left := [.mapping attributes], attributes := some attributes }

def next (supply : Supply) : Except Cause (Value × Supply) :=
  match supply.left with
  | [] => .error .wrongKind
  | value :: left => .ok (value, { supply with left })

/-- Makes the attribute that a directive names its only argument. -/
def select (supply : Supply) : Option String → Except Cause Supply
  | none => .ok supply
  | some name =>
    match supply.attributes with
    | none => .error .wrongKind
    | some attributes =>
      match Value.lookup name attributes with
      | some value => .ok { supply with left := [value] }
      | none => .error (.missingKey (.text name))

/-- The count in a directive, which can be the next argument. No count goes beyond its limit. -/
def count (supply : Supply) (limit : Limit) : Count → Except Cause (Option Int × Supply)
  | .absent => .ok (none, supply)
  | .given n =>
    if limit.greatest < n then .error (.badValue (limit.name ++ " too big"))
    else .ok (some n, supply)
  | .argument => do
    let (value, supply) ← supply.next
    let n ← exactWholeOf value
    if limit.greatest < n ∨ n < -limit.greatest - 1 then .error .overflow
    else return (some n, supply)

def isSpent (supply : Supply) : Bool :=
  supply.attributes.isSome || supply.left.isEmpty

end Supply

/-- The layout of a directive with the given counts; a negative width aligns to the left. -/
def Directive.field (d : Directive) (width precision : Option Int) : Field where
  flags := { d.flags with leftAligned := d.flags.leftAligned || (width.any fun n => n < 0) }
  width := (width.getD 0).natAbs
  precision := precision.map Int.toNat

def messageChar (c : Char) : Char :=
  if 31 ≤ c.toNat && c.toNat ≤ 126 then c else '?'

def unsupportedLetter (letter : Char) (index : Nat) : String :=
  "unsupported format character '" ++ String.singleton (messageChar letter) ++ "' (0x"
    ++ String.ofList (Nat.toDigits 16 letter.toNat) ++ ") at index " ++ toString index

def Directive.text (d : Directive) (supply : Supply) : Except Cause (String × Supply) := do
  let supply ← supply.select d.name
  let (width, supply) ← supply.count widthLimit d.width
  let (precision, supply) ← supply.count precisionLimit d.precision
  match d.letter with
  | none => .error (.badValue "incomplete format")
  | some letter =>
    let (value, supply) ← supply.next
    match conversions.lookup letter with
    | some conversion => return (← conversion.boundedText (d.field width precision) value, supply)
    | none => .error (.badValue (unsupportedLetter letter d.index))

def Piece.text (supply : Supply) : Piece → Except Cause (String × Supply)
  | plain c => .ok (String.singleton c, supply)
  | directive d => d.text supply
  | openName =>
    if supply.attributes.isNone then .error .wrongKind
    else .error (.badValue "incomplete format key")

def renderPieces (supply : Supply) : List Piece → Except Cause String
  | [] => if supply.isSpent then .ok "" else .error .wrongKind
  | piece :: pieces => do
    let (text, supply) ← piece.text supply
    return text ++ (← renderPieces supply pieces)

def render (template : String) (supply : Supply) : Except Cause String :=
  renderPieces supply (piecesOf template)

/-- The arguments of a message as one value: a lone mapping names them. -/
def argumentsOf : List Value → Value
  | [.mapping (pair :: pairs)] => .mapping (pair :: pairs)
  | values => .tuple values

/--
A message with its arguments; without arguments it is no template. A list is one argument, which
need not be used, but has no names.
-/
def messageText (message : String) (arguments : Value) : Except Cause String :=
  if !arguments.isTruthy then
    .ok message
  else
    match arguments with
    | .tuple values => render message (.inOrder values)
    | .mapping pairs => render message (.byName pairs)
    | .list values =>
      match render message { left := [.list values], attributes := some [] } with
      | .error (.missingKey _) => .error .wrongKind
      | result => result
    | value => render message (.inOrder [value])

def withContext (attributes : List (String × Value)) : List (String × Value) :=
  let add := fun (attributes : List (String × Value)) (name : String) =>
    if (attributes.lookup name).isSome then attributes else attributes ++ [(name, .text "-")]
  add (add attributes "collection") "field"

def recordText (template : String) (attributes : List (String × Value)) : Except Cause String :=
  let pairs := (withContext attributes).map fun (name, value) => (Value.text name, value)
  match render template (.byName pairs) with
  | .error (.missingKey key) =>
    .error (.badValue ("Formatting field not found in record: " ++ key.nested))
  | result => result

def skipCount : List Char → List Char
  | '*' :: rest => rest
  | cs => cs.dropWhile Text.isAnyDigit

def skipPrecision : List Char → List Char
  | '.' :: rest => if (skipCount rest).length < rest.length then skipCount rest else '.' :: rest
  | cs => cs

def isAttributeLetter (c : Char) : Bool :=
  (conversions.lookup c.toLower).isSome || c = '%' || ['ı', 'İ', 'ſ'].contains c

def writesAttribute : List Char → Bool
  | '(' :: rest =>
    match rest.takeWhile Text.isWordChar, rest.dropWhile Text.isWordChar with
    | _ :: _, ')' :: rest =>
      (skipPrecision (skipCount (rest.dropWhile isFlag))).head?.any isAttributeLetter
    | _, _ => false
  | _ => false

def mentionsAttribute : List Char → Bool
  | [] => false
  | c :: rest => (c = '%' && writesAttribute rest) || mentionsAttribute rest

/-- The template for records that a text stands for: an empty one shows the message alone. -/
def recordTemplate (text : String) : Except Cause String :=
  let template := if text = "" then "%(message)s" else text
  if mentionsAttribute template.toList then .ok template
  else .error (.badValue ("Invalid format '" ++ template ++ "' for '%' style"))

def failureText : Value → Except Cause Value
  | .text s => .error (if s.length < 3 then .other "IndexError" else .noMembers)
  | .list items => .error (if items.length < 3 then .other "IndexError" else .noMembers)
  | .mapping _ => .error (.missingKey (.int 2))
  | value => if value.isTruthy then .error .wrongKind else .ok .null

def withFailure (attributes : List (String × Value)) : Except Cause (List (String × Value)) := do
  let failure := (attributes.lookup "exc_info").getD .null
  let text := (attributes.lookup "exc_text").getD .null
  if !failure.isTruthy || text.isTruthy then return attributes
  else return Ordered.put "exc_text" (← failureText failure) attributes

/-- The text with that of an attribute on lines of its own behind it, unless there is none. -/
def withAppendix (attributes : List (String × Value)) (name text : String) :
    Except Cause String :=
  match attributes.lookup name with
  | none => .ok text
  | some value =>
    if !value.isTruthy then .ok text
    else
      match value with
      | .text more => .ok ((if text.endsWith "\n" then text else text ++ "\n") ++ more)
      | _ => .error .wrongKind

/--
The text of a record whose message is a template for its arguments, under a template for the
attributes of the record. What is known of a failure and of its place follows.
-/
def formattedRecord (template : String) (attributes : List (String × Value)) :
    Except Cause String := do
  let template ← recordTemplate template
  let message := (attributes.lookup "msg").getD .null
  let arguments := (attributes.lookup "args").getD .null
  let attributes := Ordered.put "message" (.text (← messageText message.shown arguments)) attributes
  let text ← recordText template attributes
  let attributes ← withFailure attributes
  withAppendix attributes "stack_info" (← withAppendix attributes "exc_text" text)

end Typescribe.Log
