import Typescribe.Yaml.Graph
import Typescribe.Yaml.Lexer

/-!
This module contains the composition of a document from its tokens: the graph of its nodes. An alias
stands for the node with its anchor, which can be a node around it.
-/

namespace Typescribe.Yaml

/-- What is left to be composed, and the nodes so far. -/
structure Composer where
  tokens : List Token
  fault : Option Cause
  handles : List (List Char × List Char) := []
  anchors : List (List Char × Nat) := []
  graph : Graph := #[]

namespace Composer

/-- Fails if the next token cannot be read. -/
def demand (c : Composer) : Except Cause Unit :=
  match c.tokens, c.fault with
  | [], some cause => .error cause
  | _, _ => .ok ()

/-- Fails because of the next token, which does not fit or cannot be read. -/
def unexpected {α : Type} (c : Composer) : Except Cause α := do
  c.demand
  Token.malformed

def sees (c : Composer) (expected : List Token) : Except Cause Bool := do
  c.demand
  match c.tokens with
  | [] => return false
  | token :: _ => return expected.contains token

def setTokens (c : Composer) (tokens : List Token) : Composer :=
  { c with tokens }

def skip (c : Composer) : Composer :=
  c.setTokens c.tokens.tail

def add (c : Composer) (anchor : Option (List Char)) (tag : Tag) (content : Content) :
    Nat × Composer :=
  let id := c.graph.size
  let anchors :=
    match anchor with
    | none => c.anchors
    | some name => (name, id) :: c.anchors
  (id, { c with graph := c.graph.push ⟨tag, content⟩, anchors })

def addEmpty (c : Composer) : Nat × Composer :=
  c.add none .null (.scalar [])

def setContent (c : Composer) (id : Nat) (content : Content) : Composer :=
  { c with graph := c.graph.setContent id content }

end Composer

/-- The anchor and the tag in front of a node. -/
structure Properties where
  anchor : Option (List Char) := none
  tag : Option (Option (List Char) × List Char) := none

namespace Properties

def isSome (p : Properties) : Bool :=
  p.anchor.isSome || p.tag.isSome

def isFull (p : Properties) : Bool :=
  p.anchor.isSome && p.tag.isSome

end Properties

/-- Reads an anchor and a tag, in either order. -/
def readProperties (c : Composer) : Properties × Composer :=
  match c.tokens with
  | .anchor name :: .tag handle suffix :: rest =>
    (⟨some name, some (handle, suffix)⟩, c.setTokens rest)
  | .anchor name :: rest => (⟨some name, none⟩, c.setTokens rest)
  | .tag handle suffix :: .anchor name :: rest =>
    (⟨some name, some (handle, suffix)⟩, c.setTokens rest)
  | .tag handle suffix :: rest => (⟨none, some (handle, suffix)⟩, c.setTokens rest)
  | _ => ({}, c)

/-- The full name of a tag; its handle must be known. -/
def tagName (c : Composer) : Option (Option (List Char) × List Char) →
    Except Cause (Option (List Char))
  | none => .ok none
  | some (none, suffix) => .ok (some suffix)
  | some (some handle, suffix) =>
    match c.handles.lookup handle with
    | some start => .ok (some (start ++ suffix))
    | none => Token.malformed

/-- The tag of a node with a tag of its own, or else the given one; a lone mark counts as none. -/
def tagOr (name : Option (List Char)) (tag : Tag) : Tag :=
  match name with
  | none => tag
  | some name => if name = ['!'] then tag else Tag.ofName name

def scalarTag (name : Option (List Char)) (isPlain : Bool) (text : List Char) : Tag :=
  match name with
  | none => if isPlain then Tag.ofPlain text else .str
  | some name => if name = ['!'] then Tag.ofPlain text else Tag.ofName name

/-- Where a node stands, which decides on the collections that it can be. -/
inductive Place where
  | flow
  | block
  | blockMapping
deriving DecidableEq, Repr

/-- Composes a sequence. It is a node before its items are, so that they can name it. -/
def composeSequence (anchor name : Option (List Char))
    (read : Composer → Except Cause (List Nat × Composer)) (c : Composer) :
    Except Cause (Nat × Composer) := do
  let (id, c) := c.add anchor (tagOr name .seq) (.sequence [])
  let (items, c) ← read c
  return (id, c.setContent id (.sequence items))

/-- Composes a mapping. It is a node before its pairs are, so that they can name it. -/
def composeMapping (anchor name : Option (List Char))
    (read : Composer → Except Cause (List (Nat × Nat) × Composer)) (c : Composer) :
    Except Cause (Nat × Composer) := do
  let (id, c) := c.add anchor (tagOr name .map) (.mapping [])
  let (pairs, c) ← read c
  return (id, c.setContent id (.mapping pairs))

def composeBare (properties : Properties) (name : Option (List Char)) (c : Composer) :
    Except Cause (Nat × Composer) := do
  c.demand
  if properties.isSome then
    return c.add properties.anchor (scalarTag name true []) (.scalar [])
  else
    Token.malformed

mutual

def compose (place : Place) : (fuel : Nat) → Composer → Except Cause (Nat × Composer)
  | 0, _ => Token.malformed
  | fuel + 1, c =>
    match c.tokens with
    | .alias name :: rest =>
      match c.anchors.lookup name with
      | some id => .ok (id, c.setTokens rest)
      | none => Token.malformed
    | _ => do
      let (properties, c) := readProperties c
      if !properties.isFull then c.demand
      let name ← tagName c properties.tag
      c.demand
      if properties.anchor.any fun anchor => (c.anchors.lookup anchor).isSome then
        Token.malformed
      else
        composeContent place fuel properties name c

def composeContent (place : Place) (fuel : Nat) (properties : Properties)
    (name : Option (List Char)) (c : Composer) : Except Cause (Nat × Composer) :=
  match fuel with
  | 0 => Token.malformed
  | fuel + 1 =>
    match c.tokens with
    | .blockEntry :: _ =>
      if place = .blockMapping then
        composeSequence properties.anchor name (composeIndentless fuel) c
      else composeBare properties name c
    | .scalar isPlain text :: rest =>
      .ok ((c.setTokens rest).add properties.anchor (scalarTag name isPlain text) (.scalar text))
    | .flowSequenceStart :: rest =>
      composeSequence properties.anchor name (composeFlowItems true fuel) (c.setTokens rest)
    | .flowMappingStart :: rest =>
      composeMapping properties.anchor name (composeFlowPairs true fuel) (c.setTokens rest)
    | .blockSequenceStart :: rest =>
      if place = .flow then composeBare properties name c
      else composeSequence properties.anchor name (composeBlockItems fuel) (c.setTokens rest)
    | .blockMappingStart :: rest =>
      if place = .flow then composeBare properties name c
      else composeMapping properties.anchor name (composeBlockPairs fuel) (c.setTokens rest)
    | _ => composeBare properties name c

def composeUnless (ends : List Token) (place : Place) :
    (fuel : Nat) → Composer → Except Cause (Nat × Composer)
  | 0, _ => Token.malformed
  | fuel + 1, c => do
    if ← c.sees ends then return c.addEmpty else compose place fuel c

def composeValue (ends : List Token) (place : Place) :
    (fuel : Nat) → Composer → Except Cause (Nat × Composer)
  | 0, _ => Token.malformed
  | fuel + 1, c => do
    if ← c.sees [.value] then composeUnless ends place fuel c.skip else return c.addEmpty

def composeBlockItems : (fuel : Nat) → Composer → Except Cause (List Nat × Composer)
  | 0, _ => Token.malformed
  | fuel + 1, c =>
    match c.tokens with
    | .blockEntry :: rest => do
      let (item, c) ← composeUnless [.blockEntry, .blockEnd] .block fuel (c.setTokens rest)
      let (items, c) ← composeBlockItems fuel c
      return (item :: items, c)
    | .blockEnd :: rest => .ok ([], c.setTokens rest)
    | _ => c.unexpected

def composeIndentless : (fuel : Nat) → Composer → Except Cause (List Nat × Composer)
  | 0, _ => Token.malformed
  | fuel + 1, c =>
    match c.tokens with
    | .blockEntry :: rest => do
      let (item, c) ← composeUnless [.blockEntry, .key, .value, .blockEnd] .block fuel
        (c.setTokens rest)
      let (items, c) ← composeIndentless fuel c
      return (item :: items, c)
    | _ => do
      c.demand
      return ([], c)

def composeBlockPairs : (fuel : Nat) → Composer → Except Cause (List (Nat × Nat) × Composer)
  | 0, _ => Token.malformed
  | fuel + 1, c =>
    match c.tokens with
    | .key :: rest => do
      let ends : List Token := [.key, .value, .blockEnd]
      let (key, c) ← composeUnless ends .blockMapping fuel (c.setTokens rest)
      let (value, c) ← composeValue ends .blockMapping fuel c
      let (pairs, c) ← composeBlockPairs fuel c
      return ((key, value) :: pairs, c)
    | .blockEnd :: rest => .ok ([], c.setTokens rest)
    | _ => c.unexpected

def composeFlowItems (isFirst : Bool) : (fuel : Nat) → Composer → Except Cause (List Nat × Composer)
  | 0, _ => Token.malformed
  | fuel + 1, c => do
    if ← c.sees [.flowSequenceEnd] then return ([], c.skip)
    else if !isFirst && !(← c.sees [.flowEntry]) then c.unexpected
    else
      let c := if isFirst then c else c.skip
      if ← c.sees [.flowSequenceEnd] then return ([], c.skip)
      else
        let (item, c) ←
          if ← c.sees [.key] then
            composeMapping none none (composeFlowPair [.flowEntry, .flowSequenceEnd] fuel) c.skip
          else compose .flow fuel c
        let (items, c) ← composeFlowItems false fuel c
        return (item :: items, c)

def composeFlowPair (ends : List Token) :
    (fuel : Nat) → Composer → Except Cause (List (Nat × Nat) × Composer)
  | 0, _ => Token.malformed
  | fuel + 1, c => do
    let (key, c) ← composeUnless (.value :: ends) .flow fuel c
    let (value, c) ← composeValue ends .flow fuel c
    return ([(key, value)], c)

/-- Composes the pairs of a flow mapping; a lone key has an empty value. -/
def composeFlowPairs (isFirst : Bool) :
    (fuel : Nat) → Composer → Except Cause (List (Nat × Nat) × Composer)
  | 0, _ => Token.malformed
  | fuel + 1, c => do
    if ← c.sees [.flowMappingEnd] then return ([], c.skip)
    else if !isFirst && !(← c.sees [.flowEntry]) then c.unexpected
    else
      let c := if isFirst then c else c.skip
      if ← c.sees [.flowMappingEnd] then return ([], c.skip)
      else if ← c.sees [.key] then
        let (first, c) ← composeFlowPair [.flowEntry, .flowMappingEnd] fuel c.skip
        let (pairs, c) ← composeFlowPairs false fuel c
        return (first ++ pairs, c)
      else
        let (key, c) ← compose .flow fuel c
        c.demand
        let (value, c) := c.addEmpty
        let (pairs, c) ← composeFlowPairs false fuel c
        return ((key, value) :: pairs, c)

end

def defaultHandles : List (List Char × List Char) :=
  [(['!'], ['!']), (['!', '!'], standardStart)]

/-- Reads the directives in front of a document: one version at most, and each handle once. -/
def readDirectives : List Token → (seenVersion : Bool) → List (List Char × List Char) →
    Except Cause (List (List Char × List Char) × List Token)
  | .version major :: rest, seenVersion, handles =>
    if seenVersion || major ≠ 1 then Token.malformed else readDirectives rest true handles
  | .tagHandle handle start :: rest, seenVersion, handles =>
    if (handles.lookup handle).isSome then Token.malformed
    else readDirectives rest seenVersion (handles ++ [(handle, start)])
  | .otherDirective :: rest, seenVersion, handles => readDirectives rest seenVersion handles
  | tokens, _, handles => .ok (handles ++ defaultHandles, tokens)

def endsDocument : Token → Bool
  | .version _ | .tagHandle _ _ | .otherDirective | .documentStart | .documentEnd => true
  | _ => false

def startsDocument : Token → Bool
  | .version _ | .tagHandle _ _ | .otherDirective | .documentStart => true
  | _ => false

namespace Composer

def readStart (c : Composer) : Except Cause Composer := do
  let (handles, tokens) ← readDirectives c.tokens false []
  let c := { c with handles, tokens }
  match tokens with
  | .documentStart :: rest => return c.setTokens rest
  | _ => c.unexpected

def expectEnd (c : Composer) : Except Cause Unit := do
  let c := c.setTokens (c.tokens.dropWhile (· = .documentEnd))
  c.demand
  if c.tokens.isEmpty then
    return
  else
    let _ ← c.readStart
    Token.malformed

def document (c : Composer) : Except Cause (Nat × Graph) := do
  let (id, c) ← compose .block (5 * c.tokens.length + 5) c
  c.expectEnd
  return (id, c.graph)

def emptyDocument (c : Composer) : Except Cause (Nat × Graph) := do
  let (id, c) := c.addEmpty
  c.expectEnd
  return (id, c.graph)

end Composer

/-- The first node of the only document of a text and its graph, or none if there is no document. -/
def composeAll (run : TokenRun) : Except Cause (Option (Nat × Graph)) := do
  let c : Composer := { tokens := run.tokens, fault := run.fault }
  c.demand
  match c.tokens with
  | [] => return none
  | first :: _ =>
    if startsDocument first then
      let c ← c.readStart
      c.demand
      if c.tokens.head?.all endsDocument then c.emptyDocument else c.document
    else
      let c := { c with handles := defaultHandles }
      c.document

end Typescribe.Yaml
