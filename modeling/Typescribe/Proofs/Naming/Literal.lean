import Typescribe.Naming.Literal

/-!
This module contains a reader of string literals in single quotes, and that it reads a written
literal as the text it was written for.
-/

namespace Typescribe.Naming

/-- The character that a backslash and a letter stand for. -/
def literalEscape? : Char → Option Char
  | '\'' => some '\''
  | '"' => some '"'
  | '\\' => some '\\'
  | 'b' => some '\x08'
  | 'f' => some '\x0c'
  | 'n' => some '\n'
  | 'r' => some '\r'
  | 't' => some '\t'
  | 'v' => some '\x0b'
  | _ => none

def consLiteral (c : Char) (read : Option (List Char × List Char)) :
    Option (List Char × List Char) :=
  read.map fun (cs, rest) => (c :: cs, rest)

/--
Reads the rest of a string literal behind its opening quote: its characters, and what follows the
closing quote. No line break stands in a literal. Escapes that spell the number of a character are
left out.
-/
def readLiteral? : List Char → Option (List Char × List Char)
  | [] => none
  | '\'' :: rest => some ([], rest)
  | '\\' :: letter :: rest =>
    (literalEscape? letter).bind fun c => consLiteral c (readLiteral? rest)
  | c :: rest =>
    if c = '\\' || c = '\n' || c = '\r' then none else consLiteral c (readLiteral? rest)

/-- The value of a text that is one string literal in single quotes. -/
def literalValue? (text : String) : Option String :=
  match text.toList with
  | '\'' :: rest =>
    match readLiteral? rest with
    | some (cs, []) => some (String.ofList cs)
    | _ => none
  | _ => none

theorem readLiteral?_escape {letter c : Char} (h : literalEscape? letter = some c)
    (rest : List Char) :
    readLiteral? ('\\' :: letter :: rest) = consLiteral c (readLiteral? rest) := by
  rw [readLiteral?, h, Option.bind_some]

theorem readLiteral?_plain {c : Char} (quote : c ≠ '\'') (backslash : c ≠ '\\')
    (newline : c ≠ '\n') (return_ : c ≠ '\r') (rest : List Char) :
    readLiteral? (c :: rest) = consLiteral c (readLiteral? rest) := by
  rw [readLiteral?.eq_4 _ _ quote fun _ _ same _ => backslash same]
  simp [backslash, newline, return_]

theorem readLiteral?_escapeLiteralChar (c : Char) (rest : List Char) :
    readLiteral? (escapeLiteralChar c ++ rest) = consLiteral c (readLiteral? rest) := by
  unfold escapeLiteralChar
  split
  · exact readLiteral?_escape rfl rest
  · exact readLiteral?_escape rfl rest
  · exact readLiteral?_escape rfl rest
  · exact readLiteral?_escape rfl rest
  · next backslash quote newline return_ =>
    exact readLiteral?_plain quote backslash newline return_ rest

theorem readLiteral?_flatMap (cs rest : List Char) :
    readLiteral? (cs.flatMap escapeLiteralChar ++ '\'' :: rest) = some (cs, rest) := by
  induction cs with
  | nil => rfl
  | cons c cs ih =>
    rw [List.flatMap_cons, List.append_assoc, readLiteral?_escapeLiteralChar, ih]
    rfl

theorem literalValue?_stringLiteral (s : String) : literalValue? (stringLiteral s) = some s := by
  unfold literalValue? stringLiteral
  simp only [String.toList_ofList, List.cons_append, readLiteral?_flatMap, String.ofList_toList]

theorem stringLiteral_injective {s t : String} (h : stringLiteral s = stringLiteral t) : s = t := by
  have read := literalValue?_stringLiteral s
  rw [h, literalValue?_stringLiteral] at read
  exact (Option.some.inj read).symm

end Typescribe.Naming
