import Typescribe.Text.Split

/-!
This module contains file paths: their parts, their text, and how they are joined.
-/

namespace Typescribe

/-- A file path. It is absolute if its root is not empty. -/
structure FilePath where
  root : String := ""
  parts : List String := []
deriving DecidableEq, Repr, Inhabited

namespace FilePath

/-- The slashes that make a path absolute: one, or exactly two. -/
def rootOf : List Char → String
  | '/' :: '/' :: '/' :: _ => "/"
  | '/' :: '/' :: _ => "//"
  | '/' :: _ => "/"
  | _ => ""

/-- The parts of a path between the slashes; empty parts and single points are dropped. -/
def partsOf (s : List Char) : List String :=
  ((Text.splitAt '/' s).map String.ofList).filter fun part => part ≠ "" && part ≠ "."

def ofString (s : String) : FilePath :=
  ⟨rootOf s.toList, partsOf s.toList⟩

def text (path : FilePath) : String :=
  if path.root = "" ∧ path.parts = [] then "."
  else path.root ++ String.intercalate "/" path.parts

def isAbsolute (path : FilePath) : Bool :=
  path.root ≠ ""

/-- The path of another one seen from a directory; an absolute path stays itself. -/
def join (directory path : FilePath) : FilePath :=
  if path.isAbsolute then path else ⟨directory.root, directory.parts ++ path.parts⟩

def parent (path : FilePath) : FilePath :=
  ⟨path.root, path.parts.dropLast⟩

def name (path : FilePath) : String :=
  path.parts.getLast?.getD ""

/-- The end of a name from its last point on; a point at either end of the name does not count. -/
def suffixOf (name : List Char) : List Char :=
  let ending := name.reverse.takeWhile (· ≠ '.')
  if ending = [] ∨ name.length ≤ ending.length + 1 then [] else '.' :: ending.reverse

def suffix (path : FilePath) : List Char :=
  suffixOf path.name.toList

/-- Can the path be handed to the file system? The character with number zero cannot. -/
def isUsable (path : FilePath) : Bool :=
  path.parts.all fun part => !part.toList.contains '\x00'

end FilePath

end Typescribe
