import Typescribe.Fault
import Typescribe.Files.Path
import Typescribe.Ordered

/-!
This module contains trees of files, with symbolic links, and what can be done with them: looking
up, reading, making directories and writing.
-/

namespace Typescribe

inductive FileEntry where
  | file (bytes : List Nat)
  | directory
  | link (target : FilePath)
deriving DecidableEq, Repr, Inhabited

/--
A tree of files. Two names are the same if their folded forms are equal; a place is the list of the
folded names that lead to it. The root is a directory. Each file has one place: a second name for the
same bytes can only be a symbolic link.
-/
structure FileTree where
  entries : List (List String × FileEntry) := []
  workingDirectory : List String := []
  fold : String → String := id

namespace FileTree

def entryAt? (tree : FileTree) (place : List String) : Option FileEntry :=
  if place = [] then some .directory else Ordered.get? place tree.entries

def put (tree : FileTree) (place : List String) (entry : FileEntry) : FileTree :=
  { tree with entries := Ordered.put place entry tree.entries }

theorem entryAt?_put (tree : FileTree) {place : List String} (entry : FileEntry)
    (other : List String) (h : place ≠ []) :
    (tree.put place entry).entryAt? other
      = if place = other then some entry else tree.entryAt? other := by
  by_cases hp : place = other
  · subst hp
    simp [entryAt?, put, h, Ordered.get?_put]
  · simp [entryAt?, put, hp, Ordered.get?_put]

def maxNameSize : Nat := 255

def maxPathSize : Nat := 4095

/-- A path leads through this many links at most. -/
def maxLinks : Nat := 40

/--
The place to which names lead from another place, through directories only. A link leads on from its
directory, by its target and the rest of the names; but a link with the last name is a place of its
own if it is not followed.
-/
def walkWith (tree : FileTree) (followsLast : Bool)
    (follow : List String → FilePath → List String → Except FileFault (List String))
    (place : List String) : List String → Except FileFault (List String)
  | [] => .ok place
  | name :: names =>
    match tree.entryAt? place with
    | none => .error .notFound
    | some .directory =>
      if name = ".." then walkWith tree followsLast follow place.dropLast names
      else if maxNameSize < name.utf8ByteSize then .error .other
      else
        let next := place ++ [tree.fold name]
        match tree.entryAt? next with
        | some (.link target) =>
          if names = [] && !followsLast then .ok next else follow place target names
        | _ => walkWith tree followsLast follow next names
    | some _ => .error .notDirectory

/-- The place to which names lead from another place, through so many links at most. -/
def walk (tree : FileTree) (followsLast : Bool) :
    (links : Nat) → List String → List String → Except FileFault (List String)
  | 0, place, names => tree.walkWith followsLast (fun _ _ _ => .error .linkLoop) place names
  | links + 1, place, names =>
    tree.walkWith followsLast (fun place target names =>
      tree.walk followsLast links (if target.isAbsolute then [] else place) (target.parts ++ names))
      place names

def resolve (tree : FileTree) (followsLast : Bool) (path : FilePath) :
    Except FileFault (List String) :=
  if maxPathSize < path.text.utf8ByteSize then .error .other
  else tree.walk followsLast maxLinks (if path.isAbsolute then [] else tree.workingDirectory)
    path.parts

/-- The place of what a path leads to. -/
def placeOf (tree : FileTree) (path : FilePath) : Except FileFault (List String) :=
  tree.resolve true path

/-- The place of a path's own entry, which can be a link. -/
def entryPlaceOf (tree : FileTree) (path : FilePath) : Except FileFault (List String) :=
  tree.resolve false path

def withoutUps : (kept : List String) → List String → List String
  | kept, [] => kept.reverse
  | kept, part :: parts =>
    if part = ".." then withoutUps kept.tail parts else withoutUps (part :: kept) parts

/-- The path from the root that a path names if there are no links on it. -/
def normalize (tree : FileTree) (path : FilePath) : FilePath :=
  let parts := if path.isAbsolute then path.parts else tree.workingDirectory ++ path.parts
  ⟨"/", withoutUps [] parts⟩

def namedPlace (tree : FileTree) (path : FilePath) : List String :=
  (tree.normalize path).parts.map tree.fold

def at? (tree : FileTree) (path : FilePath) : Except FileFault FileEntry := do
  let place ← tree.placeOf path
  match tree.entryAt? place with
  | some entry => return entry
  | none => .error .notFound

def isDirectory (tree : FileTree) (path : FilePath) : Bool :=
  path.isUsable && tree.at? path matches .ok .directory

def read (tree : FileTree) (path : FilePath) : Except FileFault (List Nat) := do
  match ← tree.at? path with
  | .file bytes => return bytes
  | .directory => .error .isDirectory
  | .link _ => .error .linkLoop

def makeDirectory (tree : FileTree) (path : FilePath) : Except FileFault FileTree := do
  let place ← tree.entryPlaceOf path
  match tree.entryAt? place with
  | some _ => .error .alreadyExists
  | none => return tree.put place .directory

/-- A fault unless there is a directory at the path. -/
def unlessDirectory (tree : FileTree) (path : FilePath) (fault : FileFault) :
    Except FileFault Unit :=
  if tree.isDirectory path then .ok () else .error fault

/-- Makes a directory unless there is one. -/
def addDirectory (tree : FileTree) (path : FilePath) : Except FileFault Unit × FileTree :=
  match tree.makeDirectory path with
  | .ok tree => (.ok (), tree)
  | .error fault => (tree.unlessDirectory path fault, tree)

/--
Makes the directory with the given parts, last part first, and its missing parents, unless there is
one. Parents that were made stay if a later part fails.
-/
def addDirectories (tree : FileTree) (root : String) :
    List String → Except FileFault Unit × FileTree
  | [] => tree.addDirectory ⟨root, []⟩
  | name :: parents =>
    let path : FilePath := ⟨root, (name :: parents).reverse⟩
    match tree.makeDirectory path with
    | .ok tree => (.ok (), tree)
    | .error .notFound =>
      match tree.addDirectories root parents with
      | (.ok (), tree) => tree.addDirectory path
      | failed => failed
    | .error fault => (tree.unlessDirectory path fault, tree)

/-- Makes the directory at a path and its missing parents, unless there is one. -/
def ensureDirectory (tree : FileTree) (path : FilePath) : Except FileFault Unit × FileTree :=
  tree.addDirectories path.root path.parts.reverse

def write (tree : FileTree) (path : FilePath) (bytes : List Nat) : Except FileFault FileTree := do
  let place ← tree.placeOf path
  match tree.entryAt? place with
  | some .directory => .error .isDirectory
  | some (.link _) => .error .linkLoop
  | _ => return tree.put place (.file bytes)

end FileTree

end Typescribe
