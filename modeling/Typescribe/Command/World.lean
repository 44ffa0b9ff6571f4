import Typescribe.Choices.Cache
import Typescribe.Database.Basic
import Typescribe.Database.Url
import Typescribe.Files.Tree
import Typescribe.Rest.Transport

/-!
This module contains what a run of the command finds and changes: the files, the databases among
them, and the server that it can ask.
-/

namespace Typescribe.Command

/-- What a run works on; `σ` is the state of the server. -/
structure World (σ : Type) where
  files : FileTree
  databases : List (List String × Database) := []
  server : σ

structure Context (σ : Type) where
  environment : List (String × String) := []
  transport : Rest.Transport σ

namespace World

variable {σ α : Type}

def onFiles (step : Step FileTree α) : Step (World σ) α :=
  step.within World.files fun files world => { world with files }

def onServer (step : Step σ α) : Step (World σ) α :=
  step.within World.server fun server world => { world with server }

/-- The fault of a database that cannot be used. -/
def unusable (cause : Cause) : Fault :=
  .source (.introspection cause)

/-- Opens the database in a file. A missing file is made, with an empty database. -/
def openFile (place : List String) : Step (World σ) Database := do
  let world ← Step.state
  match Ordered.get? place world.databases with
  | some db => return db
  | none =>
    match world.files.entryAt? place, world.files.entryAt? place.dropLast with
    | some (.file []), _ => return .empty
    | some (.file _), _ => Step.fail (unusable (.other "DatabaseError"))
    | none, some .directory =>
      Step.setState { world with files := world.files.put place (.file []) }
      return .empty
    | _, _ => Step.fail (unusable .database)

/-- Opens a database; the path of its file is normalized before any link is followed. -/
def openDatabase : Database.Location → Step (World σ) Database
  | .memory => return .empty
  | .file path => do
    let files := (← Step.state).files
    match files.placeOf (files.normalize path) with
    | .ok place => openFile place
    | .error _ => Step.fail (unusable .database)

end World

end Typescribe.Command
