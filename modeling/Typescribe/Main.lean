import Std.Time.Format
import Typescribe.Command.Run

/-!
This module contains the program. It looks at the files that a run can meet, runs the command on
them, and carries out what the run has changed. It looks through links, so that the tree of a run
has none. It reaches no server, and the only database file that it can use is an empty one.
-/

namespace Typescribe.Command

def settingNames : List String :=
  ["SNAPSHOT_PATH", "DIRECTUS_URL", "DIRECTUS_TOKEN", "DATABASE_URL", "REQUEST_TIMEOUT_SECONDS",
    "PREFETCH_CHOICES", "INCLUDE_SYSTEM_COLLECTIONS", "JSON_TYPE", "LENIENT_TYPES",
    "LOG_LEVEL"].map ("DIRECTUS_TYPEGEN_" ++ ·)

def isNameChar (c : Char) : Bool :=
  c.isAlphanum || c = '_'

def wordsOf (cs : List Char) : List String :=
  (cs.splitBy fun a b => isNameChar a = isNameChar b).map String.ofList

def readEnvironment (file : List Char) : IO (List (String × String)) := do
  let names := settingNames ++ settingNames.map String.toLower ++ wordsOf file
  names.filterMapM fun name => do
    return (← IO.getEnv name).map (name, ·)

def probe (place : List String) : IO (Option FileEntry) := do
  match ← (IO.FS.readBinFile ("/" ++ String.intercalate "/" place)).toBaseIO with
  | .ok bytes => return some (.file (bytes.toList.map UInt8.toNat))
  | .error (.inappropriateType none ..) => return some .directory
  | .error _ => return none

def wayTo (place : List String) : List (List String) :=
  (List.range place.length).map fun n => place.take (n + 1)

def survey (tree : FileTree) (places : List (List String)) : IO FileTree :=
  (places.flatMap wayTo).foldlM (fun tree place => do
    if (tree.entryAt? place).isSome then return tree
    match ← probe place with
    | some entry => return tree.put place entry
    | none => return tree) tree

def namedPaths (context : Context Unit) (files : FileTree) (args : List String) : List FilePath :=
  match Arguments.ofList args, readSettings context files with
  | .ok arguments, .ok (settings, _) =>
    arguments.path :: match origin? arguments settings with
      | some (.snapshot path) => [path]
      | some (.database url) =>
        match Database.locate url with
        | .ok (.file path) => [path]
        | _ => []
      | _ => []
  | _, _ => []

def carryOut (before after : FileTree) : IO Unit :=
  after.entries.forM fun (place, entry) => do
    if before.entryAt? place ≠ some entry then
      let path := "/" ++ String.intercalate "/" place
      match entry with
      | .directory => IO.FS.createDir path
      | .file bytes => IO.FS.writeBinFile path ⟨(bytes.map UInt8.ofNat).toArray⟩
      | .link _ => pure ()

def printRecords (records : List Log.Record) : IO Unit :=
  records.forM fun record => do
    let time := (← Std.Time.PlainDateTime.now).format "uuuu-MM-dd HH:mm:ss,SSS"
    match record.line time with
    | .ok line => IO.println line
    | .error cause => IO.eprintln cause.label

def conclude : Ending → IO UInt32
  | .exit code => return code.toUInt32
  | .usage usage => do
    IO.eprintln "usage: directus-typegen snapshot <path> [switches]"
    return usage.exitCode.toUInt32
  | .failed fault => do
    IO.eprintln fault.message
    return 1

def runOnFiles (args : List String) : IO UInt32 := do
  let directory ← IO.currentDir
  let empty : FileTree := { workingDirectory := FilePath.partsOf directory.toString.toList }
  let files ← survey empty [empty.workingDirectory, empty.namedPlace (.ofString ".env")]
  let environment ← readEnvironment ((environmentText files).toOption.getD [])
  let context : Context Unit := { environment, transport := Rest.unconnected }
  let files ← survey files ((namedPaths context files args).map files.namedPlace)
  let draft := run context { files, server := () } args
  let files ← survey files (draft.world.files.entries.map Prod.fst)
  let outcome := run context { files, server := () } args
  carryOut files outcome.world.files
  printRecords outcome.records
  conclude outcome.ending

end Typescribe.Command

def main (args : List String) : IO UInt32 :=
  Typescribe.Command.runOnFiles args
