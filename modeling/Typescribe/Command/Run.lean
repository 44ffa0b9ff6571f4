import Typescribe.Choices.Database
import Typescribe.Choices.Rest
import Typescribe.Command.Arguments
import Typescribe.Command.World
import Typescribe.Database.Introspection
import Typescribe.Files.Writing
import Typescribe.Log.Line
import Typescribe.Settings.Basic

/-!
This module contains the run of the command: the choice of the source of the data model, the
generation, and the writing of its files.
-/

namespace Typescribe.Command

variable {σ : Type}

inductive SchemaOrigin where
  | snapshot (path : FilePath)
  | server (url : String)
  | database (url : String)
deriving DecidableEq, Repr

def nonEmpty (text : Option String) : Option String :=
  text.filter (· ≠ "")

def Arguments.origin? (arguments : Arguments) : Option SchemaOrigin :=
  ((arguments.fromSnapshot.map .snapshot).or ((nonEmpty arguments.fromApi).map .server)).or
    ((nonEmpty arguments.fromDatabase).map .database)

/-- The source that the settings name: a snapshot, or else a server, or else a database. -/
def settingsOrigin? (settings : Settings) : Option SchemaOrigin :=
  (((nonEmpty settings.snapshotPath).map (.snapshot ∘ .ofString)).or
    ((nonEmpty settings.directusUrl).map .server)).or
    ((nonEmpty settings.databaseUrl).map .database)

/-- The source of the data model; that of the arguments wins. -/
def origin? (arguments : Arguments) (settings : Settings) : Option SchemaOrigin :=
  arguments.origin?.or (settingsOrigin? settings)

/-- The state of a run: the world, with the answers of the source of choices that are known. -/
abbrev Running (σ : Type) := World (Cached σ)

/-- A data model and the source of the choices of its fields. -/
structure Loaded (σ : Type) where
  schema : Schema
  choices : ChoiceSource (Cached σ)

def prefetchIf (wanted : Bool) (source : ChoiceSource σ) : Step (Running σ) Unit := do
  if wanted then
    discard (World.onServer source.prefetch)

def loadSnapshot (path : FilePath) : Step (Running σ) (Loaded σ) := do
  let contents ← World.onFiles (Snapshot.load path)
  return ⟨contents.schema, .ofDefinitions contents.definitions⟩

def loadServer (client : Rest.Client σ) (prefetch : Bool) : Step (Running σ) (Loaded σ) := do
  let contents ← World.onServer (ChoiceSource.askInner client.fetchSnapshot)
  let source := ChoiceSource.ofServer client
  prefetchIf prefetch source
  return ⟨contents.schema, source.cached⟩

def loadDatabase (settings : Settings) (url : String) (prefetch : Bool) :
    Step (Running σ) (Loaded σ) := do
  let timeout := Database.Seconds.double settings.requestTimeout
  discard (Snapshot.orFail (Database.ConnectionOptions.of url (some timeout)))
  let location ← Snapshot.orFail (Database.locate url)
  let db ← World.openDatabase location
  let schema ← db.introspect settings.includeSystemCollections
  let source := ChoiceSource.ofDatabase db
  prefetchIf prefetch source
  return ⟨schema, source.cached⟩

def load (context : Context σ) (arguments : Arguments) (settings : Settings) :
    Step (Running σ) (Loaded σ) := do
  let prefetch := settings.prefetchChoices && !arguments.noPrefetch
  match origin? arguments settings with
  | none => Step.fail (.source .notConfigured)
  | some (.snapshot path) => loadSnapshot path
  | some (.server url) =>
    let token := (nonEmpty arguments.token).or settings.directusToken
    loadServer ⟨url, token, context.transport⟩ prefetch
  | some (.database url) => loadDatabase settings url prefetch

def configOf (arguments : Arguments) (settings : Settings) : Declaration.Config where
  mode := if arguments.isAmbient then .ambient else .exported
  layout := if arguments.split then .split else .combined
  jsonType := settings.jsonType
  lenientTypes := arguments.lenient || settings.lenientTypes
  combinedFileName := arguments.path.name

def outputDirectory (arguments : Arguments) : FilePath :=
  if arguments.split then arguments.path else arguments.path.parent

def report (level : Log.Level) (message : String) : Step σ Unit :=
  Step.write { level, origin := .command, message }

def exitCode (arguments : Arguments) (failures : List FieldFault) : Nat :=
  if arguments.strict && !failures.isEmpty then 3 else 0

def generateTo (arguments : Arguments) (settings : Settings) (loaded : Loaded σ) :
    Step (Running σ) Nat := do
  report .info ("Exporting models to " ++ arguments.path.text)
  let generation ← World.onServer
    (Declaration.generate (configOf arguments settings) loaded.schema loaded.choices)
  let written ← World.onFiles
    (Files.writeFiles (outputDirectory arguments) (generation.files.map .ofGenerated))
  report .info ("Wrote " ++ toString written.length ++ " files")
  if !generation.failures.isEmpty then
    report .warning (toString generation.failures.length
      ++ " fields could not be typed and were degraded")
  return exitCode arguments generation.failures

/-- Is there a directory at a path? A path that cannot even be asked for is a fault. -/
def isDirectory (files : FileTree) (path : FilePath) : Except Cause Bool :=
  if !path.isUsable then .ok false
  else
    match files.at? path with
    | .ok .directory => .ok true
    | .ok _ | .error .notFound | .error .notDirectory | .error .linkLoop => .ok false
    | .error fault => .error (.file fault)

/-- Runs the command. Without a split output its path must not be a directory. -/
def snapshot (context : Context σ) (arguments : Arguments) (settings : Settings) :
    Step (Running σ) Nat := do
  let blocked ← if arguments.split then pure false
    else Snapshot.orFail (isDirectory (← Step.state).files arguments.path)
  if blocked then
    report .error
      (arguments.path.text ++ " is a directory; pass --split to write one file per collection")
    return 1
  else
    generateTo arguments settings (← load context arguments settings)

def isReported : Fault → Bool
  | .foreign _ => false
  | _ => true

def runSnapshot (context : Context σ) (arguments : Arguments) (settings : Settings) :
    Step (Running σ) Nat := do
  match ← (snapshot context arguments settings).attempt with
  | .ok code => return code
  | .error fault =>
    if isReported fault then
      report .error fault.message
      return 1
    else
      Step.fail fault

inductive Ending where
  | exit (code : Nat)
  | usage (usage : Usage)
  | failed (fault : Fault)
deriving Repr

def Ending.ofResult : Except Fault Nat → Ending
  | .ok code => exit code
  | .error fault => failed fault

/-- The end of a run, the records that its log takes, and the world after it. -/
structure Outcome (σ : Type) where
  ending : Ending
  records : List Log.Record := []
  world : World σ

def environmentText (files : FileTree) : Except Cause (List Char) :=
  match files.read (.ofString ".env") with
  | .error _ => .ok []
  | .ok bytes =>
    match Text.decodeUtf8 bytes with
    | some cs => .ok cs
    | none => .error .undecodableText

def readSettings (context : Context σ) (files : FileTree) : Except Cause (Settings × Nat) := do
  let text ← environmentText files
  let settings ← Settings.load context.environment text
  return (settings, ← Log.threshold settings.logLevel)

def run (context : Context σ) (world : World σ) (args : List String) : Outcome σ :=
  match readSettings context world.files with
  | .error cause => { ending := .failed (.foreign cause), world }
  | .ok (settings, threshold) =>
    match Arguments.ofList args with
    | .error usage => { ending := .usage usage, world }
    | .ok arguments =>
      let start : Running σ := { world with server := { inner := world.server } }
      let (result, session) := (runSnapshot context arguments settings).runOn start
      { ending := .ofResult result
        records := Log.taken threshold session.log
        world := { session.state with server := session.state.server.inner } }

end Typescribe.Command
