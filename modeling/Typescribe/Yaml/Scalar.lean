import Typescribe.Fault
import Typescribe.Text.Hex
import Typescribe.Text.Surrogate
import Typescribe.Yaml.Cursor

/-!
This module contains the reading of scalars: plain ones, quoted ones with folded lines and escapes,
and block scalars.
-/

namespace Typescribe.Yaml

/-! ### Plain scalars -/

def plainEnds (inFlow : Bool) (c next : Char) : Bool :=
  isBlankOrEnd c
    || (c = ':' && (isBlankOrEnd next || (inFlow && [',', '[', ']', '{', '}'].contains next)))
    || (inFlow && [',', '?', '[', ']', '{', '}'].contains c)

def plainLength (inFlow : Bool) : List Char → Nat
  | [] => 0
  | c :: rest =>
    if plainEnds inFlow c (rest.headD endMark) then 0 else plainLength inFlow rest + 1

/--
The line breaks behind a first one, with the spaces between them skipped, and the position behind
them; none if a mark between documents follows one of them.
-/
def plainBreaks : (fuel : Nat) → Cursor → List Char → Option (List Char) × Cursor
  | 0, c, breaks => (some breaks, c)
  | fuel + 1, c, breaks =>
    if c.peek = ' ' then
      plainBreaks fuel c.step breaks
    else
      match c.lineBreak? with
      | none => (some breaks, c)
      | some (first, after) =>
        if after.atDocumentMark then (none, after) else plainBreaks fuel after (breaks ++ [first])

/-- What a first line break and those behind it read as: a single line feed reads as a space. -/
def foldBreaks (first : Char) (breaks : List Char) : List Char :=
  if first ≠ '\n' then first :: breaks
  else if breaks.isEmpty then [' ']
  else breaks

/-- The white space behind a word of a plain scalar. -/
structure PlainSpace where
  /-- What the white space reads as; nothing if the scalar ends here. -/
  text : List Char
  brokeLine : Bool
  cursor : Cursor

def plainSpace (c : Cursor) : PlainSpace :=
  let (spaces, c) := c.takeWhile (· = ' ')
  match c.lineBreak? with
  | none => ⟨spaces, false, c⟩
  | some (first, after) =>
    if after.atDocumentMark then
      ⟨[], true, after⟩
    else
      match plainBreaks (after.left + 1) after [] with
      | (some breaks, after) => ⟨foldBreaks first breaks, true, after⟩
      | (none, after) => ⟨[], true, after⟩

structure ReadScalar where
  text : List Char
  /-- Does the scalar end on a line of its own, so that a key can follow? -/
  allowsKey : Bool
  cursor : Cursor

/--
Reads the words of a plain scalar behind white space; continuation lines must be indented deeply
enough. The characters so far come in reverse order.
-/
def plainWords (inFlow : Bool) (indent : Int) :
    (fuel : Nat) → (reversed : List Char) → PlainSpace → ReadScalar
  | 0, reversed, space => ⟨reversed.reverse, space.brokeLine, space.cursor⟩
  | fuel + 1, reversed, space =>
    let c := space.cursor
    let length := plainLength inFlow c.rest
    if c.peek = '#' || length = 0 then
      ⟨reversed.reverse, space.brokeLine, c⟩
    else
      let reversed := (c.rest.take length).reverseAux (space.text.reverseAux reversed)
      let space := plainSpace (c.forward length)
      if space.text.isEmpty || space.cursor.peek = '#'
          || (!inFlow && (space.cursor.column : Int) < indent) then
        ⟨reversed.reverse, space.brokeLine, space.cursor⟩
      else
        plainWords inFlow indent fuel reversed space

def readPlain (inFlow : Bool) (indent : Int) (c : Cursor) : ReadScalar :=
  plainWords inFlow (indent + 1) (c.left + 1) [] ⟨[], false, c⟩

/-! ### Quoted scalars -/

def quotedEscape? : Char → Option Char
  | '0' => some '\x00'
  | 'a' => some '\x07'
  | 'b' => some '\x08'
  | 't' => some '\t'
  | '\t' => some '\t'
  | 'n' => some '\n'
  | 'v' => some '\x0b'
  | 'f' => some '\x0c'
  | 'r' => some '\r'
  | 'e' => some '\x1b'
  | ' ' => some ' '
  | '"' => some '"'
  | '\\' => some '\\'
  | '/' => some '/'
  | 'N' => some '\x85'
  | '_' => some '\xa0'
  | 'L' => some '\u2028'
  | 'P' => some '\u2029'
  | _ => none

def escapeDigits? : Char → Option Nat
  | 'x' => some 2
  | 'u' => some 4
  | 'U' => some 8
  | _ => none

def escapedChar (code : Nat) : Except Cause Char :=
  if code < 0x110000 then .ok (Text.unitChar code)
  else if code < 0x80000000 then .error (.badValue "chr() arg not in range(0x110000)")
  else .error .overflow

def secondHalf? : List Char → Option Nat
  | '\\' :: 'u' :: a :: b :: c :: d :: _ =>
    (Text.ofHex? [a, b, c, d]).filter Text.isLowSurrogate
  | _ => none

/-- The character of an escape behind which `c` stands; two halves of a pair are one character. -/
def escapedCode (code : Nat) (c : Cursor) : Except Cause (Char × Cursor) :=
  match secondHalf? c.rest with
  | some second =>
    if Text.isHighSurrogate code then .ok (Text.pairChar code second, c.forward 6)
    else (escapedChar code).map (·, c)
  | none => (escapedChar code).map (·, c)

def quotedBreaks : (fuel : Nat) → Cursor → List Char → Except Cause (List Char × Cursor)
  | 0, c, breaks => .ok (breaks, c)
  | fuel + 1, c, breaks =>
    if c.atDocumentMark then
      .error .malformedYaml
    else
      let c := c.skipWhile fun x => x = ' ' || x = '\t'
      match c.lineBreak? with
      | some (first, after) => quotedBreaks fuel after (breaks ++ [first])
      | none => .ok (breaks, c)

def readEscape (c : Cursor) : Except Cause (List Char × Cursor) :=
  match quotedEscape? c.peek with
  | some char => .ok ([char], c.step)
  | none =>
    match escapeDigits? c.peek with
    | some count =>
      let digits := c.step.rest.take count
      match Text.ofHex? digits with
      | some code =>
        if digits.length = count then do
          let (char, after) ← escapedCode code (c.step.forward count)
          return ([char], after)
        else .error .malformedYaml
      | none => .error .malformedYaml
    | none =>
      match c.lineBreak? with
      | some (_, after) => quotedBreaks (after.left + 1) after []
      | none => .error .malformedYaml

def quotedSpace (c : Cursor) : Except Cause (List Char × Cursor) := do
  let (blanks, c) := c.takeWhile fun x => x = ' ' || x = '\t'
  match c.lineBreak? with
  | some (first, after) =>
    let (breaks, after) ← quotedBreaks (after.left + 1) after []
    return (foldBreaks first breaks, after)
  | none => return (blanks, c)

/-- Reads the rest of a scalar in the given quotes. The characters so far come in reverse order. -/
def quotedRest (quote : Char) :
    (fuel : Nat) → Cursor → (reversed : List Char) → Except Cause ReadScalar
  | 0, _, _ => .error .malformedYaml
  | fuel + 1, c, reversed => do
    let first := c.peek
    if quote = '\'' && first = quote && c.peekAt 1 = quote then
      quotedRest quote fuel (c.forward 2) (quote :: reversed)
    else if first = quote then
      return ⟨reversed.reverse, false, c.step⟩
    else if quote = '"' && first = '\\' then
      let (escaped, after) ← readEscape c.step
      quotedRest quote fuel after (escaped.reverseAux reversed)
    else if isBlankOrEnd first then
      if first = endMark then
        .error .malformedYaml
      else
        let (space, after) ← quotedSpace c
        quotedRest quote fuel after (space.reverseAux reversed)
    else
      quotedRest quote fuel c.step (first :: reversed)

/-- Reads a scalar in quotes; the position is that of the opening quote. -/
def readQuoted (c : Cursor) : Except Cause ReadScalar :=
  quotedRest c.peek (c.left + 1) c.step []

/-! ### Block scalars -/

/-- What becomes of the line breaks at the end of a block scalar. -/
inductive Chomping where
  | strip
  | clip
  | keep
deriving DecidableEq, Repr

def chomping? : Char → Option Chomping
  | '+' => some .keep
  | '-' => some .strip
  | _ => none

def indentation? (c : Char) : Option Nat :=
  if c.isDigit then some (c.toNat - 0x30) else none

/--
Reads the signs in the first line of a block scalar: chomping and indentation, in either order.
-/
def blockHeader (c : Cursor) : Except Cause (Chomping × Option Nat × Cursor) := do
  let (chomping, indentation, c) :=
    match chomping? c.peek with
    | some chomping =>
      match indentation? c.step.peek with
      | some n => (chomping, some n, c.step.step)
      | none => (chomping, none, c.step)
    | none =>
      match indentation? c.peek with
      | some n =>
        match chomping? c.step.peek with
        | some chomping => (chomping, some n, c.step.step)
        | none => (.clip, some n, c.step)
      | none => (.clip, none, c)
  if indentation = some 0 || !isSpaceOrEnd c.peek then
    .error .malformedYaml
  else
    let c := c.skipSpaces.skipComment
    match c.lineBreak? with
    | some (_, after) => return (chomping, indentation, after)
    | none => if c.peek = endMark then return (chomping, indentation, c) else .error .malformedYaml

def blockIndentation : (fuel : Nat) → Cursor → List Char → Nat → List Char × Nat × Cursor
  | 0, c, breaks, deepest => (breaks, deepest, c)
  | fuel + 1, c, breaks, deepest =>
    if c.peek = ' ' then
      blockIndentation fuel c.step breaks (max deepest c.step.column)
    else
      match c.lineBreak? with
      | some (first, after) => blockIndentation fuel after (breaks ++ [first]) deepest
      | none => (breaks, deepest, c)

def skipIndentation (indent : Nat) (c : Cursor) : Cursor :=
  c.forward (min (indent - c.column) (c.takeWhile (· = ' ')).1.length)

def blockBreaks (indent : Nat) : (fuel : Nat) → Cursor → List Char → List Char × Cursor
  | 0, c, breaks => (breaks, c)
  | fuel + 1, c, breaks =>
    let c := skipIndentation indent c
    match c.lineBreak? with
    | some (first, after) => blockBreaks indent fuel after (breaks ++ [first])
    | none => (breaks, c)

/-- A block scalar that is read line by line. -/
structure Block where
  /-- The characters so far, the last one first. -/
  reversed : List Char
  lastBreak : List Char
  breaks : List Char
  cursor : Cursor

def blockLines (folded : Bool) (indent : Nat) : (fuel : Nat) → Block → Block
  | 0, block => block
  | fuel + 1, block =>
    let c := block.cursor
    if c.column = indent && c.peek ≠ endMark then
      let startsBlank (x : Char) : Bool := x = ' ' || x = '\t'
      let (line, after) := c.takeWhile (!isBreak ·)
      let reversed := line.reverseAux (block.breaks.reverseAux block.reversed)
      let (lastBreak, after) :=
        match after.lineBreak? with
        | some (first, after) => ([first], after)
        | none => ([], after)
      let (breaks, after) := blockBreaks indent (after.left + 1) after []
      if after.column = indent && after.peek ≠ endMark then
        let joint :=
          if folded && lastBreak = ['\n'] && !startsBlank c.peek && !startsBlank after.peek then
            if breaks.isEmpty then [' '] else []
          else lastBreak
        blockLines folded indent fuel ⟨joint.reverseAux reversed, lastBreak, breaks, after⟩
      else
        ⟨reversed, lastBreak, breaks, after⟩
    else block

/--
Reads a block scalar inside a block of the given indentation; the position is that of its sign.
-/
def readBlock (outer : Int) (c : Cursor) : Except Cause ReadScalar := do
  let folded := c.peek = '>'
  let (chomping, indentation, c) ← blockHeader c.step
  let least := max 1 (outer + 1).toNat
  let (indent, breaks, c) :=
    match indentation with
    | some n =>
      let indent := least + n - 1
      let (breaks, c) := blockBreaks indent (c.left + 1) c []
      (indent, breaks, c)
    | none =>
      let (breaks, deepest, c) := blockIndentation (c.left + 1) c [] 0
      (max least deepest, breaks, c)
  let block := blockLines folded indent (c.left + 1) ⟨[], [], breaks, c⟩
  let text := block.reversed.reverse ++ (if chomping = .strip then [] else block.lastBreak)
    ++ (if chomping = .keep then block.breaks else [])
  return ⟨text, true, block.cursor⟩

end Typescribe.Yaml
