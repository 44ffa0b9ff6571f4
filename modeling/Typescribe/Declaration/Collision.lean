import Typescribe.Declaration.Config
import Typescribe.Fault
import Typescribe.Naming.ClassName
import Typescribe.Ordered
import Typescribe.Schema.Basic

/-!
This module contains the check that no two declarations have one name. Letter case does not count,
because the names become file names, and a file system may not distinguish case.
-/

namespace Typescribe.Declaration

def reservedNames : Layout → List String
  | .combined => ["Collections", "CollectionName", "ItemIn"]
  | .split => ["Collections", "CollectionName", "ItemIn", "index"]

def reservedOwner : String := "(reserved name)"

/-- A name without its letter case. Names are ASCII. -/
def foldCase (name : String) : String :=
  String.ofList (name.toList.map Char.toLower)

def declaredNames (layout : Layout) (ids : List String) : List (String × String) :=
  (reservedNames layout).map (·, reservedOwner) ++ ids.map fun id => (Naming.className id, id)

/-- Names that differ in letter case only: the first of them, and the owners of all. -/
structure NameGroup where
  name : String
  owners : List String
deriving DecidableEq, Repr

def addName (groups : List (String × NameGroup)) (entry : String × String) :
    List (String × NameGroup) :=
  let key := foldCase entry.1
  match Ordered.get? key groups with
  | some group => Ordered.put key { group with owners := group.owners ++ [entry.2] } groups
  | none => Ordered.put key ⟨entry.1, [entry.2]⟩ groups

def nameGroups (layout : Layout) (ids : List String) : List NameGroup :=
  ((declaredNames layout ids).foldl addName []).map (·.2)

/-- The names with several owners, all in alphabetical order. -/
def collisions (layout : Layout) (ids : List String) : Collisions :=
  let shared := (nameGroups layout ids).filter fun group => 1 < group.owners.length
  let byName := Ordered.ofList (shared.map fun group => (group.name, group.owners))
  (byName.map fun (name, owners) => (name, owners.mergeSort (· ≤ ·))).mergeSort
    fun a b => a.1 ≤ b.1

def checkCollisions (layout : Layout) (schema : Schema) : Except Fault Unit :=
  let found := collisions layout (schema.collections.map (·.1))
  if found.isEmpty then .ok () else .error (.collision found)

end Typescribe.Declaration
