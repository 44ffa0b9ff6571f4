import Typescribe.Yaml.Base64
import Typescribe.Yaml.Graph
import Typescribe.Yaml.Key
import Typescribe.Yaml.Number
import Typescribe.Yaml.Timestamp

/-!
This module contains the building of values from the nodes of a document. A collection is begun
without its content, which is filled in one round later, so that a fault deep inside a document
gives way to one on its surface.
-/

namespace Typescribe.Yaml

def boolValues : List (String × Bool) := [
  ("yes", true), ("no", false), ("true", true), ("false", false), ("on", true), ("off", false)
]

def boolOf (text : List Char) : Except Cause Value :=
  let word := String.ofList (Text.lowerCase text)
  match boolValues.lookup word with
  | some b => .ok (.bool b)
  | none => .error (.missingKey (.text word))

def binaryOf (text : List Char) : Except Cause Value :=
  if text.all (·.toNat < 0x80) then
    match base64Decode text with
    | some bytes => .ok (.bytes bytes)
    | none => .error .malformedYaml
  else .error .malformedYaml

/-- The value of a node in the place of a scalar. A timestamp has to be a scalar itself. -/
def scalarValue (g : Graph) (id : Nat) : Except Cause Value :=
  match g.tag id with
  | .null => (g.text id).map fun _ => .null
  | .bool => do boolOf (← g.text id)
  | .int => do return .int (← integerOf (← g.text id))
  | .float => do return .float (← doubleOf (← g.text id))
  | .binary => do binaryOf (← g.text id)
  | .timestamp => do
    let text ← g.text id
    match g.content id with
    | .scalar _ => timestampOf text
    | _ => .error .wrongKind
  | .str => do return .text (String.ofList (← g.text id))
  | _ => .error .malformedYaml

/-- A value in the making: a whole one, or a collection of the values of other nodes. -/
inductive Draft where
  | whole (value : Value)
  | list (items : List Nat)
  | mapping (pairs : List (Nat × Nat))
  | set (items : List Nat)
  | pairs (pairs : List (Nat × Nat))
deriving Repr

def Draft.empty? : Tag → Option Draft
  | .seq => some (.list [])
  | .map => some (.mapping [])
  | .set => some (.set [])
  | .omap | .pairs => some (.pairs [])
  | _ => none

structure Builder where
  graph : Graph
  drafts : Array (Option Draft)
  waiting : List Nat := []

namespace Builder

def draft? (b : Builder) (id : Nat) : Option Draft :=
  b.drafts.getD id none

def put (b : Builder) (id : Nat) (draft : Draft) : Builder :=
  { b with drafts := b.drafts.setIfInBounds id (some draft) }

def start (b : Builder) (id : Nat) : Except Cause Builder :=
  if (b.draft? id).isSome then
    .ok b
  else
    match Draft.empty? (b.graph.tag id) with
    | some draft => .ok { b.put id draft with waiting := id :: b.waiting }
    | none => (scalarValue b.graph id).map fun value => b.put id (.whole value)

/-- The value of a key; no collection can be one. -/
def keyValue (b : Builder) (id : Nat) : Except Cause Value :=
  match b.draft? id with
  | some (.whole value) => .ok value
  | _ => .error .malformedYaml

def startPair (b : Builder) (pair : Nat × Nat) : Except Cause Builder := do
  let b ← b.start pair.1
  let _ ← b.keyValue pair.1
  b.start pair.2

/-- Is the node the word for what is no number? All such nodes have the same value. -/
def isNoNumber (b : Builder) (id : Nat) : Bool :=
  b.graph.tag id = .float
    && match b.graph.text id with
      | .ok text => Yaml.isNoNumber text
      | .error _ => false

/-- Are the values of two keys the same? -/
def sameNode (b : Builder) (first second : Nat) : Bool :=
  first = second || (b.isNoNumber first && b.isNoNumber second)
    || match b.keyValue first, b.keyValue second with
      | .ok x, .ok y => sameKey x y
      | _, _ => false

/-- The pairs with one more; of equal keys the first stands, with the new value. -/
def putPair (b : Builder) (key value : Nat) : List (Nat × Nat) → List (Nat × Nat)
  | [] => [(key, value)]
  | (k, v) :: rest =>
    if b.sameNode k key then (k, value) :: rest else (k, v) :: b.putPair key value rest

def startMapping (b : Builder) (id : Nat) : Except Cause (Builder × List (Nat × Nat)) :=
  match b.graph.content id with
  | .mapping _ => do
    let graph ← b.graph.flatten id
    let pairs := graph.pairs id
    let b ← pairs.foldlM startPair { b with graph }
    return (b, pairs.foldl (fun map (key, value) => b.putPair key value map) [])
  | _ => .error .malformedYaml

def startPairs (b : Builder) (id : Nat) : Except Cause (Builder × List (Nat × Nat)) :=
  match b.graph.content id with
  | .sequence items => do
    let step := fun (b, pairs) item =>
      match b.graph.content item with
      | .mapping [(key, value)] => do
        let b ← (← b.start key).start value
        return (b, pairs ++ [(key, value)])
      | _ => .error .malformedYaml
    items.foldlM step (b, [])
  | _ => .error .malformedYaml

def fill (b : Builder) (id : Nat) : Except Cause Builder :=
  match b.graph.tag id with
  | .map => do
    let (b, pairs) ← b.startMapping id
    return b.put id (.mapping pairs)
  | .set => do
    let (b, pairs) ← b.startMapping id
    return b.put id (.set (pairs.map (·.1)))
  | .omap | .pairs => do
    let (b, pairs) ← b.startPairs id
    return b.put id (.pairs pairs)
  | _ =>
    match b.graph.content id with
    | .sequence items => do
      let b ← items.foldlM start b
      return b.put id (.list items)
    | _ => .error .malformedYaml

/--
Fills in the content of all collections, in rounds. In each round one is filled, so that the fuel is
greater than the count of nodes.
-/
def finish : (fuel : Nat) → Builder → Except Cause Builder
  | 0, b => .ok b
  | fuel + 1, b =>
    if b.waiting.isEmpty then
      .ok b
    else do
      let b ← b.waiting.reverse.foldlM fill { b with waiting := [] }
      b.finish fuel

def build (g : Graph) (id : Nat) : Except Cause Builder := do
  let b : Builder := { graph := g, drafts := Array.replicate g.size none }
  (← b.start id).finish (g.size + 1)

end Builder

end Typescribe.Yaml
