import Typescribe.Fault
import Typescribe.Yaml.Tag

/-!
This module contains the nodes of a YAML document as a graph: a node is a number, so that several
nodes can hold the same one and a node can hold itself.
-/

namespace Typescribe.Yaml

inductive Content where
  | scalar (text : List Char)
  | sequence (items : List Nat)
  | mapping (pairs : List (Nat × Nat))
deriving Repr, Inhabited

/-- A node: its tag and what it holds. -/
structure Node where
  tag : Tag
  content : Content
deriving Repr

instance : Inhabited Node := ⟨⟨.null, .scalar []⟩⟩

abbrev Graph := Array Node

namespace Graph

def node (g : Graph) (id : Nat) : Node :=
  g.getD id default

def tag (g : Graph) (id : Nat) : Tag :=
  (g.node id).tag

def content (g : Graph) (id : Nat) : Content :=
  (g.node id).content

/-- The pairs of a mapping; other nodes have none. -/
def pairs (g : Graph) (id : Nat) : List (Nat × Nat) :=
  match g.content id with
  | .mapping pairs => pairs
  | _ => []

def setContent (g : Graph) (id : Nat) (content : Content) : Graph :=
  g.modify id fun node => { node with content }

def settleKey (g : Graph) (id : Nat) : Graph :=
  if g.tag id = .value then g.modify id fun node => { node with tag := .str } else g

def isMerge (g : Graph) (id : Nat) : Bool :=
  g.tag id = .merge

def mergeCount (g : Graph) : Nat :=
  g.foldl (fun count node =>
    match node.content with
    | .mapping pairs => count + (pairs.filter fun (key, _) => g.isMerge key).length
    | _ => count) 0

/--
The graph in which a mapping holds the pairs that it takes over from others, in front of its own.
The pairs up to the given position hold no key for them any more. Each step removes such a key, so
that the fuel is greater than the count of these keys.
-/
def flattenFrom : (fuel : Nat) → (id position : Nat) → (taken : List (Nat × Nat)) → Graph →
    Except Cause Graph
  | 0, _, _, _, _ => .error .malformedYaml
  | fuel + 1, id, position, taken, g =>
    let pairs := g.pairs id
    let passed := (pairs.drop position).takeWhile fun (key, _) => !g.isMerge key
    let position := position + passed.length
    match pairs[position]? with
    | none =>
      let g := if taken.isEmpty then g else g.setContent id (.mapping (taken ++ pairs))
      .ok (pairs.foldl (fun g (key, _) => g.settleKey key) g)
    | some (_, value) => do
      let g := g.setContent id (.mapping (pairs.eraseIdx position))
      match g.content value with
      | .mapping _ =>
        let g ← flattenFrom fuel value 0 [] g
        flattenFrom fuel id position (taken ++ g.pairs value) g
      | .sequence items =>
        let step := fun (g, lists) item =>
          match g.content item with
          | .mapping _ => do
            let g ← flattenFrom fuel item 0 [] g
            return (g, g.pairs item :: lists)
          | _ => .error .malformedYaml
        let (g, lists) ← items.foldlM step (g, [])
        flattenFrom fuel id position (taken ++ lists.flatten) g
      | .scalar _ => .error .malformedYaml

def flatten (id : Nat) (g : Graph) : Except Cause Graph :=
  let fuel := if (g.pairs id).any fun (key, _) => g.isMerge key then g.mergeCount + 1 else 1
  flattenFrom fuel id 0 [] g

/--
The text of a node in the place of a scalar: a mapping stands for its first entry with an equals
sign. The fuel is greater than the count of nodes, so that it ends only in a mapping that stands for
itself.
-/
def textOf (g : Graph) : (fuel : Nat) → (id : Nat) → Except Cause (List Char)
  | 0, _ => .error (.other "RecursionError")
  | fuel + 1, id =>
    match g.content id with
    | .scalar text => .ok text
    | .sequence _ => .error .malformedYaml
    | .mapping pairs =>
      match pairs.find? fun (key, _) => g.tag key = .value with
      | some (_, value) => textOf g fuel value
      | none => .error .malformedYaml

def text (g : Graph) (id : Nat) : Except Cause (List Char) :=
  g.textOf (g.size + 1) id

end Graph

end Typescribe.Yaml
