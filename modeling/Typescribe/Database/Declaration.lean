import Typescribe.Text.Split

/-!
This module contains the reading of column declarations: the text behind the name of a column is a
type, and behind it there can be constraints.
-/

namespace Typescribe.Database

/-- What stands behind the name of a column. -/
structure ColumnDeclaration where
  type : List Char
  forbidsNull : Bool
deriving DecidableEq, Repr

namespace ColumnDeclaration

inductive Piece where
  | blank (text : List Char)
  | word (text : List Char)
  | other (text : List Char)
deriving DecidableEq, Repr

def Piece.text : Piece → List Char
  | blank text | word text | other text => text

def isSpace (c : Char) : Bool :=
  c = ' ' || c = '\t' || c = '\n' || c = '\x0c' || c = '\r'

def isWordChar (c : Char) : Bool :=
  c.isAlphanum || c = '_' || c = '$' || 0x80 ≤ c.toNat

def closingQuote? (c : Char) : Option Char :=
  if c = '[' then some ']'
  else if c = '"' || c = '\'' || c.toNat = 0x60 then some c
  else none

def commentLength : List Char → Nat
  | '*' :: '/' :: _ => 2
  | _ :: rest => commentLength rest + 1
  | [] => 0

def pieceStart : List Char → Nat × (List Char → Piece)
  | '-' :: '-' :: rest => ((rest.takeWhile (· ≠ '\n')).length + 2, .blank)
  | '/' :: '*' :: rest => (commentLength rest + 2, .blank)
  | c :: rest =>
    if isSpace c then ((rest.takeWhile isSpace).length + 1, .blank)
    else if isWordChar c then ((rest.takeWhile isWordChar).length + 1, .word)
    else
      match closingQuote? c with
      | some quote => ((rest.takeWhile (· ≠ quote)).length + 2, .other)
      | none => (1, .other)
  | [] => (1, .other)

/-- The pieces of a text. The fuel is at least its length. -/
def readPieces : (fuel : Nat) → List Char → List Piece
  | 0, _ => []
  | _, [] => []
  | fuel + 1, cs =>
    let (length, make) := pieceStart cs
    make (cs.take length) :: readPieces fuel (cs.drop length)

def constraintWords : List String :=
  ["CONSTRAINT", "PRIMARY", "NOT", "NULL", "UNIQUE", "CHECK", "DEFAULT", "COLLATE", "REFERENCES",
    "DEFERRABLE", "AS"]

def Piece.isWord (expected : String) : Piece → Bool
  | word text => String.ofList (text.map Char.toUpper) = expected
  | _ => false

def Piece.beginsConstraint (piece : Piece) : Bool :=
  constraintWords.any piece.isWord

def outermost : (depth : Nat) → List Piece → List Piece
  | _, [] => []
  | depth, piece :: pieces =>
    if piece = .other ['('] then outermost (depth + 1) pieces
    else if piece = .other [')'] then outermost (depth - 1) pieces
    else if depth = 0 then piece :: outermost depth pieces
    else outermost depth pieces

def hasNotNull : List Piece → Bool
  | first :: second :: rest =>
    (first.isWord "NOT" && second.isWord "NULL") || hasNotNull (second :: rest)
  | _ => false

def Piece.isBlank : Piece → Bool
  | blank _ => true
  | _ => false

/-- What quotes enclose, behind the opening one; a closing quote that is doubled stands for one. -/
def enclosed (quote : Char) : List Char → List Char
  | [] => []
  | c :: rest =>
    if c = quote then
      match rest with
      | d :: rest => if d = quote then quote :: enclosed quote rest else []
      | [] => []
    else c :: enclosed quote rest

/--
The text of a type without quotes. If the only quote is the one at its start, the last character is
taken for the closing one; otherwise what stands behind the closing one is dropped.
-/
def unquoted (cs : List Char) : List Char :=
  match cs with
  | [] => []
  | first :: rest =>
    match closingQuote? first with
    | none => cs
    | some quote =>
      if rest.dropLast.any fun c => (closingQuote? c).isSome then enclosed quote rest
      else rest.dropLast

def ofString (declaration : String) : ColumnDeclaration :=
  let cs := declaration.toList
  let pieces := (readPieces cs.length cs).dropWhile Piece.isBlank
  let type := pieces.takeWhile fun piece => !piece.beginsConstraint
  let constraints := (pieces.drop type.length).filter fun piece => !piece.isBlank
  let type := (type.reverse.dropWhile Piece.isBlank).reverse
  { type := unquoted (type.flatMap Piece.text)
    forbidsNull := hasNotNull (outermost 0 constraints) }

end ColumnDeclaration

end Typescribe.Database
