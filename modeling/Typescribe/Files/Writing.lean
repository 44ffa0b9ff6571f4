import Typescribe.Declaration.Generation
import Typescribe.Files.Tree
import Typescribe.Text.CodePoint

/-!
This module contains the writing of files below a directory. The writing stops at the first file
that fails; what was written before stays.
-/

namespace Typescribe.Files

/-- A file to write: its path, seen from a directory, and its text. -/
structure OutputFile where
  path : String
  content : List Text.CodePoint
deriving DecidableEq, Repr

def OutputFile.ofGenerated (file : Declaration.GeneratedFile) : OutputFile :=
  ⟨file.path, Text.codePoints file.content⟩

/-- Fails for a path that cannot be handed to the file system. -/
def requireUsable {σ : Type} (path : FilePath) : Step σ Unit :=
  if path.isUsable then pure () else Step.failWith (.badValue "embedded null byte")

/-- Makes a directory and its missing parents; a fault is reported for the given path. -/
def ensureDirectory (reported path : FilePath) : Step FileTree Unit := do
  requireUsable path
  let (result, tree) := (← Step.state).ensureDirectory path
  Step.setState tree
  Step.ofExcept (result.mapError (.output reported.text))

/-- Writes a text. A file whose text cannot be encoded is left empty. -/
def writeText (path : FilePath) (content : List Text.CodePoint) : Step FileTree Unit := do
  requireUsable path
  let tree ← Step.state
  let bytes? := Text.encode? content
  match tree.write path (bytes?.getD []) with
  | .ok tree =>
    Step.setState tree
    if bytes?.isNone then Step.failWith .unencodableText
  | .error fault => Step.fail (.output path.text fault)

def writeFile (directory : FilePath) (file : OutputFile) : Step FileTree FilePath := do
  let path := directory.join (.ofString file.path)
  ensureDirectory path path.parent
  writeText path file.content
  return path

/-- Writes files below a directory, which is made if it is missing, and gives their paths. -/
def writeFiles (directory : FilePath) (files : List OutputFile) : Step FileTree (List FilePath) := do
  ensureDirectory directory directory
  files.mapM (writeFile directory)

end Typescribe.Files
