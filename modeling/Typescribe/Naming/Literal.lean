/-!
This module contains string literal types in single quotes.
-/

namespace Typescribe.Naming

def escapeLiteralChar : Char → List Char
  | '\\' => ['\\', '\\']
  | '\'' => ['\\', '\'']
  | '\n' => ['\\', 'n']
  | '\r' => ['\\', 'r']
  | c => [c]

def stringLiteral (s : String) : String :=
  String.ofList ('\'' :: s.toList.flatMap escapeLiteralChar ++ ['\''])

end Typescribe.Naming
