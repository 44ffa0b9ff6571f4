import Typescribe.Database.ColumnKind
import Typescribe.Fault
import Typescribe.Text.Digit
import Typescribe.Text.UpperCase
import Typescribe.Text.Word

/-!
This module contains the types of columns as a table declares them: their kinds, and the text under
which the database knows them.
-/

namespace Typescribe.Database

/-- The type of a column; the text is in lower case. -/
structure ColumnType where
  kind : ColumnKind
  text : String
deriving DecidableEq, Repr

/-- What the numbers behind the name of a type say. -/
inductive Parameters where
  | none
  /-- They are a length and a sorting order. -/
  | length
  | precision
deriving DecidableEq, Repr

/-- A declarable type: its kind, the text of its name, and its parameters. -/
structure Declarable where
  kind : ColumnKind
  text : String
  parameters : Parameters := .none

def declarables : List (String × Declarable) := [
  ("INTEGER", ⟨.integer, "integer", .none⟩),
  ("INT", ⟨.integer, "integer", .none⟩),
  ("SMALLINT", ⟨.integer, "smallint", .none⟩),
  ("BIGINT", ⟨.bigInteger, "bigint", .none⟩),
  ("BOOLEAN", ⟨.boolean, "boolean", .none⟩),
  ("BOOL", ⟨.boolean, "boolean", .none⟩),
  ("FLOAT", ⟨.float, "float", .none⟩),
  ("REAL", ⟨.float, "real", .none⟩),
  ("DOUBLE", ⟨.float, "double", .none⟩),
  ("NUMERIC", ⟨.decimal, "numeric", .precision⟩),
  ("DECIMAL", ⟨.decimal, "decimal", .precision⟩),
  ("DATE", ⟨.date, "date", .none⟩),
  ("DATE_CHAR", ⟨.date, "date", .none⟩),
  ("TIME", ⟨.time, "time", .none⟩),
  ("TIME_CHAR", ⟨.time, "time", .none⟩),
  ("DATETIME", ⟨.moment false, "datetime", .none⟩),
  ("DATETIME_CHAR", ⟨.moment false, "datetime", .none⟩),
  ("TIMESTAMP", ⟨.moment false, "timestamp", .none⟩),
  ("JSON", ⟨.json, "json", .none⟩),
  ("JSONB", ⟨.json, "jsonb", .none⟩),
  ("TEXT", ⟨.text, "text", .length⟩),
  ("VARCHAR", ⟨.string, "varchar", .length⟩),
  ("CHAR", ⟨.string, "char", .length⟩),
  ("NVARCHAR", ⟨.string, "nvarchar", .length⟩),
  ("NCHAR", ⟨.string, "nchar", .length⟩),
  ("BLOB", ⟨.binary, "blob", .none⟩)
]

def affinities : List (String × Declarable) := [
  ("INT", ⟨.integer, "integer", .none⟩),
  ("CHAR", ⟨.text, "text", .length⟩),
  ("CLOB", ⟨.text, "text", .length⟩),
  ("TEXT", ⟨.text, "text", .length⟩),
  ("BLOB", ⟨.other "NullType", "nulltype", .none⟩),
  ("REAL", ⟨.float, "real", .none⟩),
  ("FLOA", ⟨.float, "real", .none⟩),
  ("DOUB", ⟨.float, "real", .none⟩)
]

/-- What a declared name stands for: a name without a meaning is a decimal number. -/
def declarable (name : List Char) : Declarable :=
  match declarables.lookup (String.ofList name) with
  | some known => known
  | none =>
    if name.isEmpty then
      ⟨.other "NullType", "nulltype", .none⟩
    else
      match affinities.find? fun (part, _) => Text.occursIn part.toList name with
      | some (_, known) => known
      | none => ⟨.decimal, "numeric", .precision⟩

def numbersIn (cs : List Char) : List Nat :=
  (go none cs).map fun digits => digits.foldl (fun n digit => n * 10 + digit) 0
where
  go : Option (List Nat) → List Char → List (List Nat)
    | run, [] => run.toList
    | run, c :: rest =>
      match Text.digitValue? c with
      | some digit => go (some (run.getD [] ++ [digit])) rest
      | none => run.toList ++ go none rest

/--
The text of the numbers that a type keeps: a length of zero says nothing, and more numbers than a
type can have count as none. A sorting order has no text.
-/
def Parameters.text : Parameters → List Nat → Except Cause String
  | length, [n] => .ok (if n = 0 then "" else "(" ++ toString n ++ ")")
  | length, [n, order] =>
    if order ≠ 0 then .error .noMembers
    else .ok (if n = 0 then "" else "(" ++ toString n ++ ")")
  | precision, [n] => .ok ("(" ++ toString n ++ ")")
  | precision, n :: scale :: more =>
    .ok (if more.length ≤ 2 then "(" ++ toString n ++ ", " ++ toString scale ++ ")" else "")
  | _, _ => .ok ""

/--
The kind of a type with numbers behind its name. A single one gives a moment a zone, and a fourth
one is no model for a truth value.
-/
def Declarable.kindWith (declarable : Declarable) (numbers : List Nat) : Except Cause ColumnKind :=
  match declarable.kind, numbers with
  | .moment _, [n] => .ok (.moment (n ≠ 0))
  | .boolean, [_, _, _, model] => if model ≠ 0 then .error .noMembers else .ok .boolean
  | kind, _ => .ok kind

def isTypeNameChar (c : Char) : Bool :=
  Text.isWordChar c || c = ' '

/-- The numbers in parentheses at the start of a text; they stand on one line. -/
def parameterNumbers (cs : List Char) : List Nat :=
  let inside := cs.takeWhile (· ≠ ')')
  if cs.head? = some '(' && inside.length < cs.length && !inside.contains '\n' then
    numbersIn inside
  else []

def ColumnType.ofDeclaration (type : List Char) : Except Cause ColumnType := do
  let cs := Text.upperCase type
  let known := declarable (cs.takeWhile isTypeNameChar)
  let numbers := parameterNumbers (cs.dropWhile isTypeNameChar)
  let kind ← known.kindWith numbers
  return ⟨kind, known.text ++ (← known.parameters.text numbers)⟩

end Typescribe.Database
