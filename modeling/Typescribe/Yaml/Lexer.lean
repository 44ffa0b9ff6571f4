import Typescribe.Yaml.Token

/-!
This module contains the splitting of a YAML text into tokens. Indentation becomes tokens that start
and end blocks; a key is recognized only at the colon behind it, so that its tokens are put in front
of it afterwards. When a token cannot be read, the tokens in front of it still count up to the first
place in which a key may have started.
-/

namespace Typescribe.Yaml

/-- A place in which a key may have started. -/
structure PendingKey where
  tokenCount : Nat
  /-- Must a colon follow, because nothing but a key can stand there? -/
  required : Bool
  left : Nat
  line : Nat
  column : Nat
deriving Repr

structure TokenRun where
  tokens : List Token
  /-- Why there are no more tokens, if not because the text ends. -/
  fault : Option Cause

structure Lexer where
  cursor : Cursor
  /-- The tokens so far, the last one first. -/
  reversed : List Token := []
  count : Nat := 0
  flowLevel : Nat := 0
  indent : Int := -1
  outerIndents : List Int := []
  allowsKey : Bool := true
  pending : List (Nat × PendingKey) := []

namespace Lexer

def push (l : Lexer) (token : Token) : Lexer :=
  { l with reversed := token :: l.reversed, count := l.count + 1 }

def insert (l : Lexer) (position : Nat) (token : Token) : Lexer :=
  let later := l.count - position
  { l with
    reversed := l.reversed.take later ++ token :: l.reversed.drop later
    count := l.count + 1 }

def inFlow (l : Lexer) : Bool :=
  0 < l.flowLevel

def isStale (l : Lexer) (key : PendingKey) : Bool :=
  key.line ≠ l.cursor.line || 1024 < key.left - l.cursor.left

def dropStale (l : Lexer) : Except Cause Lexer :=
  if l.pending.any fun (_, key) => l.isStale key && key.required then
    Token.malformed
  else
    .ok { l with pending := l.pending.filter fun (_, key) => !l.isStale key }

def dropPending (l : Lexer) : Except Cause Lexer :=
  match l.pending.lookup l.flowLevel with
  | none => .ok l
  | some key =>
    if key.required then Token.malformed
    else .ok { l with pending := l.pending.filter fun (level, _) => level ≠ l.flowLevel }

def savePending (l : Lexer) : Except Cause Lexer :=
  if l.allowsKey then do
    let required := !l.inFlow && l.indent = l.cursor.column
    let l ← l.dropPending
    let key : PendingKey :=
      ⟨l.count, required, l.cursor.left, l.cursor.line, l.cursor.column⟩
    return { l with pending := (l.flowLevel, key) :: l.pending }
  else .ok l

def unwind (l : Lexer) (column : Int) : Lexer :=
  if l.inFlow then l else go l l.outerIndents
where
  go (l : Lexer) : List Int → Lexer
    | [] => l
    | outer :: outers =>
      if column < l.indent then
        go ({ l with indent := outer, outerIndents := outers }.push .blockEnd) outers
      else l

def openBlock (l : Lexer) (column : Nat) (position : Nat) (token : Token) : Lexer :=
  if l.indent < column then
    { l with indent := column, outerIndents := l.indent :: l.outerIndents }.insert position token
  else l

/-- The position behind spaces, comments and line breaks; behind a line break a key may start. -/
def skipToToken : (fuel : Nat) → Lexer → Lexer
  | 0, l => l
  | fuel + 1, l =>
    let c := l.cursor.skipSpaces.skipComment
    match c.lineBreak? with
    | some (_, after) =>
      skipToToken fuel { l with cursor := after, allowsKey := l.allowsKey || !l.inFlow }
    | none => { l with cursor := c }

def sign (l : Lexer) (length : Nat) (token : Token) : Lexer :=
  { l with cursor := l.cursor.forward length }.push token

def closeDocument (l : Lexer) : Except Cause Lexer := do
  let l ← (l.unwind (-1)).dropPending
  return { l with allowsKey := false }

def openFlow (l : Lexer) (token : Token) : Except Cause Lexer := do
  let l ← l.savePending
  return { l with flowLevel := l.flowLevel + 1, allowsKey := true }.sign 1 token

def closeFlow (l : Lexer) (token : Token) : Except Cause Lexer := do
  let l ← l.dropPending
  return { l with flowLevel := l.flowLevel - 1, allowsKey := false }.sign 1 token

def flowEntry (l : Lexer) : Except Cause Lexer := do
  let l ← { l with allowsKey := true }.dropPending
  return l.sign 1 .flowEntry

def blockSign (l : Lexer) (start token : Token) (allowsKey : Bool) : Except Cause Lexer := do
  if !l.inFlow && !l.allowsKey then
    Token.malformed
  else
    let l := if l.inFlow then l else l.openBlock l.cursor.column l.count start
    let l ← { l with allowsKey }.dropPending
    return l.sign 1 token

def valueSign (l : Lexer) : Except Cause Lexer := do
  match l.pending.lookup l.flowLevel with
  | some key =>
    let l := { l with pending := l.pending.filter fun (level, _) => level ≠ l.flowLevel }
    let l := l.insert key.tokenCount .key
    let l := if l.inFlow then l else l.openBlock key.column key.tokenCount .blockMappingStart
    return { l with allowsKey := false }.sign 1 .value
  | none => l.blockSign .blockMappingStart .value !l.inFlow

def scalar (l : Lexer) (isPlain : Bool) (read : ReadScalar) : Lexer :=
  { l with cursor := read.cursor, allowsKey := read.allowsKey }.push (.scalar isPlain read.text)

def node (l : Lexer) (read : Cursor → Except Cause (Token × Cursor)) : Except Cause Lexer := do
  let l ← l.savePending
  let (token, cursor) ← read l.cursor
  return { l with cursor, allowsKey := false }.push token

def startsPlain (inFlow : Bool) (c next : Char) : Bool :=
  !(isBlankOrEnd c || ['-', '?', ':', ',', '[', ']', '{', '}', '#', '&', '*', '!', '|', '>', '\'',
      '"', '%', '@', '`'].contains c)
    || (!isBlankOrEnd next && (c = '-' || (!inFlow && (c = '?' || c = ':'))))

def flowScalar (l : Lexer) (isPlain : Bool) : Except Cause Lexer := do
  let l ← l.savePending
  if isPlain then
    return l.scalar true (readPlain l.inFlow l.indent l.cursor)
  else
    return l.scalar false (← readQuoted l.cursor)

def next (l : Lexer) : Except Cause Lexer := do
  let c := l.cursor
  let first := c.peek
  let followedByBlank := isBlankOrEnd (c.peekAt 1)
  if first = '%' && c.column = 0 then
    let l ← l.closeDocument
    let (token, cursor) ← Token.readDirective l.cursor
    return { l with cursor }.push token
  else if c.column = 0 && c.atDocumentMark then
    let l ← l.closeDocument
    return l.sign 3 (if first = '-' then .documentStart else .documentEnd)
  else if first = '[' then l.openFlow .flowSequenceStart
  else if first = '{' then l.openFlow .flowMappingStart
  else if first = ']' then l.closeFlow .flowSequenceEnd
  else if first = '}' then l.closeFlow .flowMappingEnd
  else if first = ',' then l.flowEntry
  else if first = '-' && followedByBlank then l.blockSign .blockSequenceStart .blockEntry true
  else if first = '?' && (l.inFlow || followedByBlank) then
    l.blockSign .blockMappingStart .key !l.inFlow
  else if first = ':' && (l.inFlow || followedByBlank) then l.valueSign
  else if first = '*' then
    l.node fun c => do
      let (name, c) ← Token.readAnchor c
      return (.alias name, c)
  else if first = '&' then
    l.node fun c => do
      let (name, c) ← Token.readAnchor c
      return (.anchor name, c)
  else if first = '!' then l.node Token.readTag
  else if (first = '|' || first = '>') && !l.inFlow then
    let l ← { l with allowsKey := true }.dropPending
    return l.scalar false (← readBlock l.indent l.cursor)
  else if first = '\'' || first = '"' then l.flowScalar false
  else if startsPlain l.inFlow first (c.peekAt 1) then l.flowScalar true
  else Token.malformed

def step (l : Lexer) : Except Cause (Lexer × Bool) := do
  let l ← (skipToToken (l.cursor.left + 1) l).dropStale
  let l := l.unwind l.cursor.column
  if l.cursor.rest.isEmpty then
    return (← (l.unwind (-1)).dropPending, true)
  else
    return (← l.next, false)

/-- The tokens so far. -/
def tokens (l : Lexer) : List Token :=
  l.reversed.reverse

/-- The tokens so far up to the first place in which a key may have started. -/
def settled (l : Lexer) : List Token :=
  let pending := l.pending.filter fun (_, key) => !l.isStale key
  l.tokens.take ((pending.map (·.2.tokenCount)).foldl min l.count)

/-- Reads all tokens. The fuel is greater than the count of characters that are left. -/
def run : (fuel : Nat) → Lexer → TokenRun
  | 0, l => ⟨l.settled, some .malformedYaml⟩
  | fuel + 1, l =>
    match l.step with
    | .error cause => ⟨l.settled, some cause⟩
    | .ok (l, isDone) => if isDone then ⟨l.tokens, none⟩ else run fuel l

end Lexer

def isYamlChar (c : Char) : Bool :=
  let n := c.toNat
  n = 0x09 || n = 0x0A || n = 0x0D || (0x20 ≤ n && n ≤ 0x7E) || n = 0x85
    || (0xA0 ≤ n && n ≤ 0xD7FF) || (0xE000 ≤ n && n ≤ 0xFFFD) || 0x10000 ≤ n

/-- The tokens of a text. A byte order mark at its start is skipped. -/
def tokens (text : List Char) : TokenRun :=
  if text.all isYamlChar then
    let start := Cursor.ofText text
    let start := if start.peek = '\ufeff' then start.step else start
    Lexer.run (start.left + 1) { cursor := start }
  else
    ⟨[], some .malformedYaml⟩

end Typescribe.Yaml
