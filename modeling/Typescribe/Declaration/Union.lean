import Typescribe.Text.Blank

/-!
This module contains unions of types: the members of a type expression, and its nullable form.
-/

namespace Typescribe.Declaration

/-- Where a scan of a type expression stands: depth of brackets, open quote, pending backslash. -/
structure Position where
  depth : Int
  quote : Option Char
  escaped : Bool
deriving DecidableEq, Repr

namespace Position

def start : Position := ⟨0, none, false⟩

def next (p : Position) (c : Char) : Position :=
  match p.quote with
  | some quote =>
    if p.escaped then { p with escaped := false }
    else if c = '\\' then { p with escaped := true }
    else if c = quote then { p with quote := none }
    else p
  | none =>
    if c = '\'' || c = '"' then { p with quote := some c }
    else if c = '(' || c = '[' || c = '{' || c = '<' then { p with depth := p.depth + 1 }
    else if c = ')' || c = ']' || c = '}' || c = '>' then { p with depth := p.depth - 1 }
    else p

def separates (p : Position) (c : Char) : Bool :=
  c = '|' && p.quote.isNone && p.depth = 0

end Position

/-- The texts between the separators of a union; there is always one. -/
def unionPieces : Position → List Char → List (List Char)
  | _, [] => [[]]
  | p, c :: rest =>
    if p.separates c then
      [] :: unionPieces p rest
    else
      match unionPieces (p.next c) rest with
      | [] => [[c]]
      | piece :: pieces => (c :: piece) :: pieces

theorem unionPieces_ne_nil (p : Position) (cs : List Char) : unionPieces p cs ≠ [] := by
  cases cs with
  | nil => simp [unionPieces]
  | cons c rest =>
    simp only [unionPieces]
    split
    · simp
    · split <;> simp

def unionMembers (expression : String) : List String :=
  (unionPieces .start expression.toList).map fun piece => String.ofList (Text.trim piece)

/-- The type with `null` added, unless it is a member already. -/
def withNull (expression : String) : String :=
  if (unionMembers expression).contains "null" then expression else expression ++ " | null"

end Typescribe.Declaration
