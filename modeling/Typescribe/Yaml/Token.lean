import Typescribe.Decimal.Reading
import Typescribe.Decimal.Whole
import Typescribe.Text.Percent
import Typescribe.Yaml.Scalar

/-!
This module contains the tokens of YAML, and the reading of those that are more than a sign: names
of anchors, tags and directives.
-/

namespace Typescribe.Yaml

inductive Token where
  | version (major : Nat)
  | tagHandle (handle : List Char) (start : List Char)
  | otherDirective
  | documentStart
  | documentEnd
  | blockSequenceStart
  | blockMappingStart
  | blockEnd
  | flowSequenceStart
  | flowSequenceEnd
  | flowMappingStart
  | flowMappingEnd
  | blockEntry
  | flowEntry
  | key
  | value
  | anchor (name : List Char)
  | alias (name : List Char)
  | tag (handle : Option (List Char)) (suffix : List Char)
  | scalar (isPlain : Bool) (text : List Char)
deriving DecidableEq, Repr

namespace Token

def malformed {α : Type} : Except Cause α := .error .malformedYaml

def expect (c : Cursor) (test : Char → Bool) : Except Cause Unit :=
  if test c.peek then .ok () else malformed

/-- Reads a name of at least one character. -/
def readName (c : Cursor) : Except Cause (List Char × Cursor) :=
  match c.takeWhile isNameChar with
  | ([], _) => malformed
  | read => .ok read

def readAnchor (c : Cursor) : Except Cause (List Char × Cursor) := do
  let (name, c) ← readName c.step
  expect c fun x => isBlankOrEnd x || ['?', ':', ',', ']', '}', '%', '@', '`'].contains x
  return (name, c)

def isTagChar (c : Char) : Bool :=
  isNameChar c || [';', '/', '?', ':', '@', '&', '=', '+', '$', ',', '.', '!', '~', '*', '\'', '(',
    ')', '[', ']', '%'].contains c

def readTagText (c : Cursor) : Except Cause (List Char × Cursor) :=
  match c.takeWhile isTagChar with
  | ([], _) => malformed
  | (text, after) =>
    match Text.percentDecode text with
    | some decoded => .ok (decoded, after)
    | none => malformed

/-- Reads the handle of a tag: a name between exclamation marks, or one of them alone. -/
def readHandle (c : Cursor) : Except Cause (List Char × Cursor) := do
  expect c (· = '!')
  let (name, after) := c.step.takeWhile isNameChar
  if after.peek = '!' then
    return ('!' :: name ++ ['!'], after.step)
  else if c.step.peek = ' ' then
    return (['!'], c.step)
  else malformed

def readTag (c : Cursor) : Except Cause (Token × Cursor) := do
  let next := c.peekAt 1
  let (token, after) ←
    if next = '<' then do
      let (text, after) ← readTagText (c.forward 2)
      expect after (· = '>')
      pure (tag none text, after.step)
    else if isBlankOrEnd next then
      pure (tag none ['!'], c.step)
    else if (c.step.rest.takeWhile (!isSpaceOrEnd ·)).contains '!' then do
      let (handle, after) ← readHandle c
      let (suffix, after) ← readTagText after
      pure (tag (some handle) suffix, after)
    else do
      let (suffix, after) ← readTagText c.step
      pure (tag (some ['!']) suffix, after)
  expect after isSpaceOrEnd
  return (token, after)

def readDigits (c : Cursor) : Except Cause (Nat × Cursor) :=
  match c.takeWhile Char.isDigit with
  | ([], _) => malformed
  | (digits, after) =>
    match Decimal.readWhole 10 digits with
    | .tooLong count => .error (.badValue (Decimal.tooLongText count))
    | _ => .ok (Decimal.ofDigits digits, after)

def readDirective (c : Cursor) : Except Cause (Token × Cursor) := do
  let (name, c) ← readName c.step
  expect c isSpaceOrEnd
  let (token, c) ←
    if name = "YAML".toList then do
      let (major, c) ← readDigits c.skipSpaces
      expect c (· = '.')
      let (_, c) ← readDigits c.step
      expect c isSpaceOrEnd
      pure (version major, c)
    else if name = "TAG".toList then do
      let (handle, c) ← readHandle c.skipSpaces
      expect c (· = ' ')
      let (start, c) ← readTagText c.skipSpaces
      expect c isSpaceOrEnd
      pure (tagHandle handle start, c)
    else
      pure (otherDirective, c.skipWhile (!isBreak ·))
  let c := c.skipSpaces.skipComment
  match c.lineBreak? with
  | some (_, after) => return (token, after)
  | none => if c.peek = endMark then return (token, c) else malformed

end Token

end Typescribe.Yaml
