/-!
This module contains the directives of text templates: what stands behind a percent sign, and how a
template is read as a list of characters and directives.
-/

namespace Typescribe.Log

/-- How the text of an argument is laid out. -/
structure Flags where
  leftAligned : Bool := false
  plus : Bool := false
  blank : Bool := false
  zeros : Bool := false
  alternate : Bool := false
deriving DecidableEq, Repr

inductive Count where
  | absent
  | given (n : Nat)
  | argument
deriving DecidableEq, Repr

structure Directive where
  name : Option String := none
  flags : Flags := {}
  width : Count := .absent
  precision : Count := .absent
  /-- The letter that says how an argument is written; a template can end before it. -/
  letter : Option Char := none
  index : Nat := 0
deriving DecidableEq, Repr

inductive Piece where
  | plain (c : Char)
  | directive (d : Directive)
  | openName
deriving DecidableEq, Repr

def readName : (depth : Nat) → List Char → Option (List Char × List Char)
  | _, [] => none
  | depth, c :: rest =>
    if c = ')' && depth = 0 then some ([], rest)
    else
      let depth := if c = '(' then depth + 1 else if c = ')' then depth - 1 else depth
      (readName depth rest).map fun (name, after) => (c :: name, after)

def isFlag (c : Char) : Bool :=
  c = '#' || c = '0' || c = '+' || c = ' ' || c = '-'

def Flags.ofList (flags : List Char) : Flags where
  leftAligned := flags.contains '-'
  plus := flags.contains '+'
  blank := flags.contains ' '
  zeros := flags.contains '0'
  alternate := flags.contains '#'

/-- Reads a count: a star or digits, of which there need not be any. -/
def readCount (none : Count) : List Char → Count × List Char
  | '*' :: rest => (.argument, rest)
  | cs =>
    match cs.takeWhile Char.isDigit with
    | [] => (none, cs)
    | digits =>
      (.given (digits.foldl (fun n c => n * 10 + (c.toNat - 0x30)) 0), cs.dropWhile Char.isDigit)

/-- Reads the count behind a point; a point without digits stands for zero. -/
def readPrecision : List Char → Count × List Char
  | '.' :: rest => readCount (.given 0) rest
  | cs => (.absent, cs)

def skipSize : List Char → List Char
  | 'h' :: rest => rest
  | 'l' :: rest => rest
  | 'L' :: rest => rest
  | cs => cs

/-- Reads a directive behind its name; `size` is the length of the template. -/
def readDirective (size : Nat) (name : Option String) (cs : List Char) : Directive × List Char :=
  let (width, rest) := readCount .absent (cs.dropWhile isFlag)
  let (precision, rest) := readPrecision rest
  let rest := skipSize rest
  ({ name, flags := .ofList (cs.takeWhile isFlag), width, precision,
     letter := rest.head?, index := size - rest.length }, rest.tail)

def readPiece (size : Nat) : List Char → Piece × List Char
  | '(' :: rest =>
    match readName 0 rest with
    | some (name, rest) =>
      let (directive, rest) := readDirective size (some (String.ofList name)) rest
      (.directive directive, rest)
    | none => (.openName, [])
  | cs =>
    let (directive, rest) := readDirective size none cs
    (.directive directive, rest)

/--
The pieces of the rest of a template; two percent signs stand for one. The fuel is at least the
length of the rest.
-/
def readPieces (size : Nat) : (fuel : Nat) → List Char → List Piece
  | 0, _ => []
  | _, [] => []
  | fuel + 1, '%' :: '%' :: rest => .plain '%' :: readPieces size fuel rest
  | fuel + 1, '%' :: rest =>
    let (piece, rest) := readPiece size rest
    piece :: readPieces size fuel rest
  | fuel + 1, c :: rest => .plain c :: readPieces size fuel rest

def piecesOf (template : String) : List Piece :=
  readPieces template.length template.length template.toList

end Typescribe.Log
