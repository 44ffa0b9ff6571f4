import Typescribe.Files.Tree
import Typescribe.Snapshot.Document
import Typescribe.Text.LowerCase
import Typescribe.Text.Lines
import Typescribe.Yaml.Reader

/-!
This module contains the loading of snapshot files, which are JSON or YAML by the ending of their
names.
-/

namespace Typescribe.Snapshot

def isJsonFile (path : FilePath) : Bool :=
  Text.lowerCase path.suffix = ".json".toList

/-- The text of a file, with line feeds as its only line ends. -/
def readText (path : FilePath) : Step FileTree String := do
  if !path.isUsable then
    Step.failWith (.badValue "embedded null byte")
  else
    match (← Step.state).read path with
    | .error fault => Step.fail (.source (.unreadable path.text (.file fault)))
    | .ok bytes =>
      match Text.decodeUtf8 bytes with
      | none => Step.failWith .undecodableText
      | some cs => return String.ofList (Text.unifyNewlines cs)

def readDocument (json : Bool) (text : String) : Except Cause Value :=
  if json then readJson text else Yaml.read text

def unparsable (path : FilePath) : Cause → Fault
  | .malformedJson => .source (.unparsable path.text .malformedJson)
  | .malformedYaml => .source (.unparsable path.text .malformedYaml)
  | cause => .foreign cause

/-- The document itself: it can stand under `data` in a mapping without collections. -/
def unwrap (value : Value) : Value :=
  match Value.lookup "data" (pairsOf value), Value.lookup "collections" (pairsOf value) with
  | some document, none => document
  | _, _ => value

def loadedMessage (verb : String) (schema : Schema) (source : String) : String :=
  verb ++ " " ++ toString schema.collections.length ++ " collections and "
    ++ toString schema.relations.length ++ " relations from " ++ source

def load (path : FilePath) : Step FileTree Contents := do
  let text ← readText path
  let document ← Step.ofExcept ((readDocument (isJsonFile path) text).mapError (unparsable path))
  let contents ← parse (unwrap document)
  Step.write {
    level := .info
    origin := .snapshot
    message := loadedMessage "Loaded" contents.schema path.text }
  return contents

end Typescribe.Snapshot
