import Typescribe.Declaration.Config
import Typescribe.Declaration.Interface
import Typescribe.Naming.ClassName
import Typescribe.Naming.PropertyKey
import Typescribe.Schema.Basic

/-!
This module contains the index of all collections, the helper types built on it, and the import
lines of split declarations.
-/

namespace Typescribe.Declaration

/-- The entry of a collection: an array of its items, or the item itself if there is only one. -/
def indexEntry (collection : Collection) : String :=
  "  " ++ Naming.propertyKey collection.collection ++ ": "
    ++ Naming.className collection.collection ++ (if collection.singleton then "" else "[]") ++ ";"

def indexSource (config : Config) (collections : List Collection) : String :=
  linesText
    ((config.keyword ++ " type Collections = \x7b") :: collections.map indexEntry ++ ["\x7d"])

def helperSource (config : Config) : String :=
  linesText [
    config.keyword ++ " type CollectionName = keyof Collections;",
    "",
    config.keyword ++ " type ItemIn<CollectionKey extends CollectionName> =",
    "    Collections[CollectionKey] extends (infer Item extends object)[]",
    "        ? Item",
    "        : Collections[CollectionKey];"
  ]

def importLine (name : String) : String :=
  "import type \x7b " ++ name ++ " \x7d from \"./" ++ name ++ "\";"

/-- The lines that import the given interfaces; ambient declarations need none. -/
def importLines (config : Config) (names : List String) : List String :=
  match config.mode with
  | .ambient => []
  | .exported => names.map importLine

def withImports (imports : List String) (source : String) : String :=
  if imports.isEmpty then source else String.intercalate "\n" imports ++ "\n\n" ++ source

end Typescribe.Declaration
