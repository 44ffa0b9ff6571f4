import Typescribe.Ordered
import Typescribe.Text.Blank
import Typescribe.Text.Lines
import Typescribe.Text.Split

/-!
This module contains the reading of environment files: lines that bind names to values, in which the
values of other names can be used. A malformed line is skipped.
-/

namespace Typescribe.EnvironmentFile

abbrev Binding := String × Option String

def isInlineBlank (c : Char) : Bool :=
  Text.isBlank c && c ≠ '\n'

abbrev Read (α : Type) := Except (List Char) (α × List Char)

def skipExport (cs : List Char) : List Char :=
  let word := "export".toList
  let rest := cs.drop word.length
  if Text.startsWith word cs && (rest.head?.map isInlineBlank).getD false then
    rest.dropWhile isInlineBlank
  else cs

def isNameChar (c : Char) : Bool :=
  !(c = '=' || c = '#' || Text.isBlank c)

/-- Reads a name, perhaps in quotes. There is none in front of a comment. -/
def readName (cs : List Char) : Read (Option String) :=
  match cs with
  | '#' :: _ => .ok (none, cs)
  | '\'' :: rest =>
    let name := rest.takeWhile (· ≠ '\'')
    match name, rest.dropWhile (· ≠ '\'') with
    | _ :: _, _ :: after => .ok (some (String.ofList name), after)
    | _, _ => .error cs
  | _ =>
    match cs.takeWhile isNameChar with
    | [] => .error cs
    | name => .ok (some (String.ofList name), cs.dropWhile isNameChar)

/--
The text before a quote, and the text after that quote. A quote behind a backslash is no end, and a
backslash behind another one makes nothing of what follows it.
-/
def cutAtQuote (quote : Char) : List Char → Option (List Char × List Char)
  | [] => none
  | '\\' :: c :: rest =>
    (cutAtQuote quote rest).map fun (before, after) => ('\\' :: c :: before, after)
  | c :: rest =>
    if c = quote then some ([], rest)
    else (cutAtQuote quote rest).map fun (before, after) => (c :: before, after)

def unescape (escapes : List (Char × Char)) : List Char → List Char
  | [] => []
  | '\\' :: c :: rest =>
    match escapes.lookup c with
    | some image => image :: unescape escapes rest
    | none => '\\' :: unescape escapes (c :: rest)
  | c :: rest => c :: unescape escapes rest

def singleEscapes : List (Char × Char) := [('\\', '\\'), ('\'', '\'')]

def doubleEscapes : List (Char × Char) := [
  ('\\', '\\'), ('\'', '\''), ('"', '"'), ('a', '\x07'), ('b', '\x08'), ('f', '\x0c'),
  ('n', '\n'), ('r', '\r'), ('t', '\t'), ('v', '\x0b')
]

def readQuoted (quote : Char) (escapes : List (Char × Char)) (cs : List Char) : Read String :=
  match cutAtQuote quote cs with
  | some (value, rest) => .ok (String.ofList (unescape escapes value), rest)
  | none => .error (quote :: cs)

def stripComment : List Char → List Char
  | [] => []
  | c :: rest =>
    if Text.isBlank c && (rest.dropWhile Text.isBlank).head? = some '#' then []
    else c :: stripComment rest

/-- Reads a value behind the equals sign. White space makes a comment of a number sign behind it. -/
def readValue (cs : List Char) : Read String :=
  match cs.dropWhile isInlineBlank with
  | '\'' :: rest => readQuoted '\'' singleEscapes rest
  | '"' :: rest => readQuoted '"' doubleEscapes rest
  | _ =>
    let value := stripComment (cs.takeWhile (· ≠ '\n'))
    .ok (String.ofList (Text.trimEnd (value.dropWhile isInlineBlank)), cs.dropWhile (· ≠ '\n'))

/-- Reads what may follow in a line: a comment. -/
def readLineEnd (cs : List Char) : Read Unit :=
  let rest := cs.dropWhile isInlineBlank
  let rest := if rest.head? = some '#' then rest.dropWhile (· ≠ '\n') else rest
  match rest with
  | [] => .ok ((), [])
  | '\n' :: after => .ok ((), after)
  | _ => .error cs

/-- Reads a line that binds a name; a line of nothing but a comment binds none. -/
def readBinding (cs : List Char) :
    Except (List Char) (Option Binding × List Char) := do
  let (name, rest) ← readName (skipExport cs)
  let rest := rest.dropWhile isInlineBlank
  let (value, rest) ←
    match rest with
    | '=' :: after => do
      let (value, rest) ← readValue after
      pure (some value, rest)
    | _ => pure (none, rest)
  let ((), rest) ← readLineEnd rest
  return (name.map fun name => (name, value), rest)

def bindings (cs : List Char) : List Binding :=
  match cs.dropWhile Text.isBlank with
  | [] => []
  | start =>
    let (binding, rest) :=
      match readBinding start with
      | .ok (binding, rest) => (binding, rest)
      | .error rest => (none, (rest.dropWhile (· ≠ '\n')).tail)
    if rest.length < cs.length then
      binding.toList ++ bindings rest
    else []
termination_by cs.length

/-- A use of a name inside a value: the name, the text if it has no value, and the rest. -/
def readUse (cs : List Char) : Option (String × String × List Char) :=
  let isInside := fun c : Char => c ≠ '\x7d' && c ≠ ':'
  let name := String.ofList (cs.takeWhile isInside)
  match cs.dropWhile isInside with
  | '\x7d' :: rest => some (name, "", rest)
  | ':' :: '-' :: rest =>
    match rest.dropWhile (· ≠ '\x7d') with
    | _ :: after => some (name, String.ofList (rest.takeWhile (· ≠ '\x7d')), after)
    | [] => none
  | _ => none

def expand (values : List Binding) (cs : List Char) : List Char :=
  match cs with
  | [] => []
  | '$' :: '\x7b' :: rest =>
    match readUse rest with
    | some (name, default, after) =>
      let value :=
        match values.lookup name with
        | some value => value.getD ""
        | none => default
      if after.length ≤ rest.length then value.toList ++ expand values after else []
    | none => '$' :: expand values ('\x7b' :: rest)
  | c :: rest => c :: expand values rest
termination_by cs.length

def bind (outside : List (String × String)) (bound : List Binding) (binding : Binding) :
    List Binding :=
  let values := bound ++ outside.map fun (name, value) => (name, some value)
  let value := binding.2.map fun value => String.ofList (expand values value.toList)
  Ordered.put binding.1 value bound

def read (outside : List (String × String)) (text : List Char) : List Binding :=
  let text := if text.head? = some '\ufeff' then text.tail else text
  (bindings (Text.unifyNewlines text)).foldl (bind outside) []

end Typescribe.EnvironmentFile
