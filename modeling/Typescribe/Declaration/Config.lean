/-!
This module contains the options of a generation.
-/

namespace Typescribe.Declaration

/-- Declarations of a module, or ambient ones. -/
inductive Mode where
  | exported
  | ambient
deriving DecidableEq, Repr

def Mode.keyword : Mode → String
  | exported => "export"
  | ambient => "declare"

/-- All declarations in one file, or one file for each collection. -/
inductive Layout where
  | combined
  | split
deriving DecidableEq, Repr

structure Config where
  mode : Mode := .exported
  layout : Layout := .combined
  jsonType : String := "any"
  lenientTypes : Bool := false
  combinedFileName : String := "models.d.ts"
deriving DecidableEq, Repr

def Config.keyword (config : Config) : String :=
  config.mode.keyword

end Typescribe.Declaration
