import Typescribe.Json.Writer

/-!
This module contains the keys of members in a type declaration: identifiers, and JSON strings for
all other names.
-/

namespace Typescribe.Naming

def isIdentifierStart (c : Char) : Bool :=
  c.isAlpha || c = '_' || c = '$'

def isIdentifierRest (c : Char) : Bool :=
  c.isAlphanum || c = '_' || c = '$'

def isIdentifier : List Char → Bool
  | [] => false
  | c :: rest => isIdentifierStart c && rest.all isIdentifierRest

def isIdentifierLine (cs : List Char) : Bool :=
  isIdentifier cs || (cs.getLast? = some '\n' && isIdentifier cs.dropLast)

def propertyKey (name : String) : String :=
  if isIdentifierLine name.toList then name else Json.quote name

end Typescribe.Naming
