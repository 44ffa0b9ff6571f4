import Typescribe.Yaml.Builder
import Typescribe.Yaml.Composition

/-!
This module contains the reading of YAML documents: the values that were built, as trees. A
collection that holds itself gets a label, which stands for it inside.
-/

namespace Typescribe.Yaml

abbrev Part := Value × List (List Nat)

namespace Part

/-- A collection of parts. A label is put around it if it holds itself or is held by a part. -/
def around (label : List Nat) (value : Value) (parts : List Part) : Part :=
  let labels := parts.flatMap (·.2)
  if labels.isEmpty then (value, [])
  else (.loop label value, labels.filter (· ≠ label))

def ofList (label : List Nat) (parts : List Part) : Part :=
  around label (.list (parts.map (·.1))) parts

def ofPairs (label : List Nat) (parts : List (Part × Part)) : Part :=
  around label (.mapping (parts.map fun (key, value) => (key.1, value.1)))
    (parts.flatMap fun (key, value) => [key, value])

def ofPair (label : List Nat) (key value : Part) : Part :=
  around label (.tuple [key.1, value.1]) [key, value]

end Part

/--
The value of a node inside others. Nodes inside each other are different, so that the fuel is
greater than the count of nodes.
-/
def partOf (drafts : Array (Option Draft)) : (fuel : Nat) → (outer : List Nat) → (id : Nat) → Part
  | 0, _, _ => (.null, [])
  | fuel + 1, outer, id =>
    if outer.contains id then
      (.back [id], [[id]])
    else
      let part := partOf drafts fuel (id :: outer)
      match drafts.getD id none with
      | none => (.null, [])
      | some (.whole value) => (value, [])
      | some (.list items) => Part.ofList [id] (items.map part)
      | some (.set items) => (.set (items.map fun item => (part item).1), [])
      | some (.mapping pairs) =>
        Part.ofPairs [id] (pairs.map fun (key, value) => (part key, part value))
      | some (.pairs pairs) =>
        Part.ofList [id] (pairs.zipIdx.map fun ((key, value), i) =>
          Part.ofPair [id, i] (part key) (part value))

/-- The value of a document; a text without a document is null. -/
def read (text : String) : Except Cause Value := do
  match ← composeAll (tokens text.toList) with
  | none => return .null
  | some (id, graph) =>
    let builder ← Builder.build graph id
    return (partOf builder.drafts (graph.size + 1) [] id).1

end Typescribe.Yaml
