/-!
This module contains the position in a text that is read character by character: what is left to
read, and the line and the column reached so far.
-/

namespace Typescribe.Yaml

structure Cursor where
  rest : List Char
  left : Nat
  line : Nat := 0
  column : Nat := 0
deriving Repr

/-- What is seen at the end of the text. No text holds this character. -/
def endMark : Char := '\x00'

def isBreak (c : Char) : Bool :=
  c = '\n' || c = '\r' || c = '\x85' || c = '\u2028' || c = '\u2029'

def isBreakOrEnd (c : Char) : Bool :=
  isBreak c || c = endMark

def isSpaceOrEnd (c : Char) : Bool :=
  isBreakOrEnd c || c = ' '

def isBlankOrEnd (c : Char) : Bool :=
  isSpaceOrEnd c || c = '\t'

def isNameChar (c : Char) : Bool :=
  c.isAlphanum || c = '-' || c = '_'

namespace Cursor

def ofText (text : List Char) : Cursor where
  rest := text
  left := text.length

def peekAt (c : Cursor) (distance : Nat) : Char :=
  c.rest.getD distance endMark

def peek (c : Cursor) : Char :=
  c.rest.headD endMark

/-- The position behind the next character. A byte order mark takes no column. -/
def step (c : Cursor) : Cursor :=
  match c.rest with
  | [] => c
  | first :: rest =>
    if isBreak first && !(first = '\r' && rest.head? = some '\n') then
      ⟨rest, c.left - 1, c.line + 1, 0⟩
    else if first = '\ufeff' then
      ⟨rest, c.left - 1, c.line, c.column⟩
    else
      ⟨rest, c.left - 1, c.line, c.column + 1⟩

def forward (c : Cursor) : Nat → Cursor
  | 0 => c
  | n + 1 => c.step.forward n

def takeWhile (c : Cursor) (test : Char → Bool) : List Char × Cursor :=
  let taken := c.rest.takeWhile test
  (taken, c.forward taken.length)

def skipWhile (c : Cursor) (test : Char → Bool) : Cursor :=
  (c.takeWhile test).2

def skipSpaces (c : Cursor) : Cursor :=
  c.skipWhile (· = ' ')

def skipComment (c : Cursor) : Cursor :=
  if c.peek = '#' then c.skipWhile (!isBreak ·) else c

/--
The line break at the position, and the position behind it. All breaks of a line read as a line feed
but the two separators of Unicode, which read as themselves.
-/
def lineBreak? (c : Cursor) : Option (Char × Cursor) :=
  let first := c.peek
  if first = '\r' && c.peekAt 1 = '\n' then some ('\n', c.forward 2)
  else if first = '\u2028' || first = '\u2029' then some (first, c.step)
  else if isBreak first then some ('\n', c.step)
  else none

/-- Does a mark between documents stand here: three dashes or three points, and then a blank? -/
def atDocumentMark (c : Cursor) : Bool :=
  (c.rest.take 3 = ['-', '-', '-'] || c.rest.take 3 = ['.', '.', '.']) && isBlankOrEnd (c.peekAt 3)

end Cursor

end Typescribe.Yaml
