import Typescribe.Declaration.Collision
import Typescribe.Declaration.Index
import Typescribe.Declaration.Interface

/-!
This module contains the generation of all declarations of a data model, in one file or in one file
for each collection.
-/

namespace Typescribe.Declaration

variable {σ : Type}

/-- A file to be written; its path is relative to the directory of the output. -/
structure GeneratedFile where
  path : String
  content : String
deriving DecidableEq, Repr

/-- The files of a data model and the fields that have no type. -/
structure Generation where
  files : List GeneratedFile
  failures : List FieldFault
deriving DecidableEq, Repr

def declarationSuffix : String := ".d.ts"

def indexFileName : String := "index" ++ declarationSuffix

/-- The collections of a data model in their order. -/
def collectionsOf (schema : Schema) : List Collection :=
  schema.collections.map (·.2)

def combinedFiles (config : Config) (schema : Schema) (interfaces : List Interface) :
    List GeneratedFile :=
  [⟨config.combinedFileName,
    String.intercalate "\n" (interfaces.map (·.source))
      ++ "\n" ++ indexSource config (collectionsOf schema)
      ++ "\n" ++ helperSource config⟩]

def interfaceFile (config : Config) (interface : Interface) : GeneratedFile :=
  ⟨interface.name ++ declarationSuffix,
    withImports (importLines config interface.references) interface.source⟩

def indexFile (config : Config) (schema : Schema) (interfaces : List Interface) : GeneratedFile :=
  ⟨indexFileName,
    withImports (importLines config (interfaces.map (·.name)))
      (indexSource config (collectionsOf schema))⟩

def splitFiles (config : Config) (schema : Schema) (interfaces : List Interface) :
    List GeneratedFile :=
  interfaces.map (interfaceFile config) ++ [indexFile config schema interfaces]

def outputFiles (config : Config) (schema : Schema) (interfaces : List Interface) :
    List GeneratedFile :=
  match config.layout with
  | .combined => combinedFiles config schema interfaces
  | .split => splitFiles config schema interfaces

/-- The interfaces of all collections in their order. -/
def renderInterfaces (config : Config) (schema : Schema) (choices : ChoiceSource σ) :
    Step σ (List Interface) :=
  (collectionsOf schema).mapM fun collection => do
    Step.write ⟨.debug, .generation, "Rendering interface", collection.collection, "-"⟩
    renderInterface config schema choices collection

/-- The declarations of a data model. It fails only if names collide. -/
def generate (config : Config) (schema : Schema) (choices : ChoiceSource σ) :
    Step σ Generation := do
  Step.ofExcept (checkCollisions config.layout schema)
  let interfaces ← renderInterfaces config schema choices
  let files := outputFiles config schema interfaces
  let failures := interfaces.flatMap (·.failures)
  Step.write {
    level := .info
    origin := .generation
    message := "Generated " ++ toString interfaces.length ++ " interfaces in "
      ++ toString files.length ++ " files (" ++ toString failures.length ++ " fields degraded)" }
  return ⟨files, failures⟩

end Typescribe.Declaration
