import Typescribe.Naming.Singular
import Typescribe.Text.Split

/-!
This module contains the names of interfaces: the identifier of a collection in the singular and in
upper camel case.
-/

namespace Typescribe.Naming

def isSafe (c : Char) : Bool :=
  c.isAlphanum || c = '_'

def replaceUnsafe (cs : List Char) : List Char :=
  go false cs
where
  go (inRun : Bool) : List Char → List Char
    | [] => []
    | c :: rest =>
      if isSafe c then c :: go false rest
      else if inRun then go true rest
      else '_' :: go true rest

def parts (cs : List Char) : List (List Char) :=
  Text.splitAt '_' (replaceUnsafe cs)

def singularizeLast : List (List Char) → List (List Char)
  | [] => []
  | part :: rest =>
    if rest.any (!·.isEmpty) then
      part :: singularizeLast rest
    else
      (if part.isEmpty then part else singularize part) :: rest

def singularizeIdentifier (cs : List Char) : List Char :=
  List.intercalate ['_'] (singularizeLast (parts cs))

def capitalize : List Char → List Char
  | [] => []
  | c :: rest => c.toUpper :: rest.map Char.toLower

/-- The words of an identifier, capitalized and joined; an underscore goes before a digit. -/
def upperCamelCase (cs : List Char) : List Char :=
  match (parts cs).flatMap capitalize with
  | [] => ['_']
  | c :: rest => if c.isDigit then '_' :: c :: rest else c :: rest

def className (collection : String) : String :=
  String.ofList (upperCamelCase (singularizeIdentifier collection.toList))

end Typescribe.Naming
