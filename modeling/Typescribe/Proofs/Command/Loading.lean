import Typescribe.Command.Run
import Typescribe.Proofs.Snapshot.Loading

/-!
This module contains how the command ends when the data model cannot be loaded: a fault of the
source is reported, and any other cause goes on.
-/

namespace Typescribe

variable {σ : Type}

namespace Rest.Client

open Snapshot

variable {client : Client σ}

theorem yields_reportExchange {α : Type} {report : Cause → Fault} {step : Step σ α}
    {s t : Session σ} {a : α} (h : Step.Yields step s a t) :
    Step.Yields (reportExchange report step) s a t := by
  unfold reportExchange
  apply Step.Yields.bind (Step.yields_attempt.mpr h)
  exact Step.yields_pure.mpr ⟨rfl, rfl⟩

theorem endsLoading_fetchSnapshot {s t : Session σ} {document : Value}
    (h : Step.Yields (client.get "/schema/snapshot") s document t) :
    EndsLoading (EscapesReading document) (client.fetchSnapshot.run.run s).1 := by
  unfold fetchSnapshot
  rw [Step.run_bind_of_ok (yields_reportExchange h)]
  exact (endsLoading_parse document t).report _

end Rest.Client

namespace Command

open Snapshot

variable {context : Context σ} {arguments : Arguments} {settings : Settings}

/-- The arguments name an output that is no directory where it must not be one. -/
def IsUnblocked (files : FileTree) (arguments : Arguments) : Prop :=
  arguments.split = true ∨ isDirectory files arguments.path = .ok false

theorem run_snapshot_of_isUnblocked {s : Session (Running σ)}
    (free : IsUnblocked s.state.files arguments) :
    (snapshot context arguments settings).run.run s
      = (load context arguments settings >>= generateTo arguments settings).run.run s := by
  unfold snapshot
  by_cases split : arguments.split = true
  · rw [if_pos split]
    rfl
  · rw [if_neg split]
    rw [Step.run_bind_of_ok Step.run_state, free.resolve_left split]
    rfl

/-- The state that a run of the command starts with: no answer of the server is known. -/
def startOf (world : World σ) : Running σ :=
  { world with server := { inner := world.server } }

/-- How the command ends if the data model cannot be loaded: only a cause from outside goes on. -/
def endingOf (fault : Fault) : Ending :=
  if isReported fault then .exit 1 else .failed fault

/-- How a run ends after the command has given a result. -/
def endingAfter : Except Fault Nat → Ending
  | .ok code => .exit code
  | .error fault => endingOf fault

/-- The world of a run, without the answers of the server that it knows. -/
def withoutAnswers (running : Running σ) : World σ :=
  { running with server := running.server.inner }

theorem run_runSnapshot (context : Context σ) (arguments : Arguments) (settings : Settings)
    (s : Session (Running σ)) :
    Ending.ofResult ((runSnapshot context arguments settings).run.run s).1
        = endingAfter ((snapshot context arguments settings).run.run s).1
      ∧ ((runSnapshot context arguments settings).run.run s).2.state
        = ((snapshot context arguments settings).run.run s).2.state := by
  unfold runSnapshot
  rw [Step.run_bind, Step.run_attempt]
  rcases (snapshot context arguments settings).run.run s with ⟨fault | code, t⟩
  · simp only [endingAfter, endingOf]
    split
    · exact ⟨rfl, rfl⟩
    · exact ⟨rfl, rfl⟩
  · exact ⟨rfl, rfl⟩

section Runs

variable {world : World σ} {args : List String} {threshold : Nat}

theorem run_of_ofList (environment : readSettings context world.files = .ok (settings, threshold))
    (parsed : Arguments.ofList args = .ok arguments) :
    let after := (snapshot context arguments settings).run.run ⟨startOf world, []⟩
    (run context world args).ending = endingAfter after.1
      ∧ (run context world args).world = withoutAnswers after.2.state := by
  obtain ⟨ending, state⟩ := run_runSnapshot context arguments settings ⟨startOf world, []⟩
  unfold run
  rw [environment, parsed]
  exact ⟨ending, congrArg withoutAnswers state⟩

theorem run_of_readSettings_eq_error {cause : Cause}
    (unset : readSettings context world.files = .error cause) :
    run context world args = { ending := .failed (.foreign cause), world } := by
  unfold run
  rw [unset]

theorem ending_run_of_load_eq_error {fault : Fault}
    (environment : readSettings context world.files = .ok (settings, threshold))
    (parsed : Arguments.ofList args = .ok arguments)
    (free : IsUnblocked world.files arguments)
    (failed : ((load context arguments settings).run.run ⟨startOf world, []⟩).1 = .error fault) :
    (run context world args).ending = endingOf fault := by
  rw [(run_of_ofList environment parsed).1,
    run_snapshot_of_isUnblocked (s := ⟨startOf world, []⟩) free, Step.fst_run_bind_of_error failed]
  rfl

end Runs

theorem fst_run_load_snapshot {path : FilePath} {s : Session (Running σ)} {fault : Fault}
    (origin : origin? arguments settings = some (.snapshot path))
    (failed : ((Snapshot.load path).run.run ⟨s.state.files, s.log⟩).1 = .error fault) :
    ((load context arguments settings).run.run s).1 = .error fault := by
  unfold load
  rw [origin]
  simp only
  unfold loadSnapshot
  apply Step.fst_run_bind_of_error
  rw [World.onFiles, Step.run_within]
  exact failed

theorem fst_run_loadServer {client : Rest.Client σ} {prefetch : Bool} {s : Session (Running σ)}
    {fault : Fault}
    (failed : (client.fetchSnapshot.run.run ⟨s.state.server.inner, s.log⟩).1 = .error fault) :
    ((loadServer client prefetch).run.run s).1 = .error fault := by
  unfold loadServer
  apply Step.fst_run_bind_of_error
  rw [World.onServer, ChoiceSource.askInner, Step.run_within, Step.run_within]
  simp only
  exact failed

/-- The client by which the command asks a server. -/
def clientOf (context : Context σ) (arguments : Arguments) (settings : Settings) (url : String) :
    Rest.Client σ :=
  ⟨url, (nonEmpty arguments.token).or settings.directusToken, context.transport⟩

theorem fst_run_load_server {url : String} {s : Session (Running σ)} {fault : Fault}
    (origin : origin? arguments settings = some (.server url))
    (failed : ((clientOf context arguments settings url).fetchSnapshot.run.run
      ⟨s.state.server.inner, s.log⟩).1 = .error fault) :
    ((load context arguments settings).run.run s).1 = .error fault := by
  unfold load
  rw [origin]
  exact fst_run_loadServer failed

inductive IsUnloaded (context : Context σ) (world : World σ) (arguments : Arguments)
    (settings : Settings) (fault : Fault) : Prop where
  | snapshot {path : FilePath} (origin : origin? arguments settings = some (.snapshot path))
    (failed : ((Snapshot.load path).run.run ⟨world.files, []⟩).1 = .error fault)
  | server {url : String} (origin : origin? arguments settings = some (.server url))
    (failed : ((clientOf context arguments settings url).fetchSnapshot.run.run
      ⟨world.server, []⟩).1 = .error fault)

theorem ending_run_of_isUnloaded {world : World σ} {args : List String} {threshold : Nat}
    {fault : Fault} (environment : readSettings context world.files = .ok (settings, threshold))
    (parsed : Arguments.ofList args = .ok arguments) (free : IsUnblocked world.files arguments)
    (unloaded : IsUnloaded context world arguments settings fault) :
    (run context world args).ending = endingOf fault := by
  apply ending_run_of_load_eq_error environment parsed free
  cases unloaded with
  | snapshot origin failed => exact fst_run_load_snapshot origin failed
  | server origin failed => exact fst_run_load_server origin failed

/--
How the loading of a data model from a file or a server ends: with its contents, with a fault of its
source, or by a cause that only unusable paths, bytes that are no text, values that cannot be built
and documents that are not regular have. The command reports a fault of the source and ends with
exit code one; any other cause goes on.
-/
theorem endsLoading_and_ending_run :
    (∀ (path : FilePath) (s : Session FileTree),
        EndsLoading (EscapesLoading s.state path) ((Snapshot.load path).run.run s).1)
      ∧ (∀ (client : Rest.Client σ) (s t : Session σ) (document : Value),
        Step.Yields (client.get "/schema/snapshot") s document t →
          EndsLoading (EscapesReading document) (client.fetchSnapshot.run.run s).1)
      ∧ ∀ (context : Context σ) (world : World σ) (args : List String) (settings : Settings)
        (threshold : Nat) (arguments : Arguments) (fault : Fault),
        readSettings context world.files = .ok (settings, threshold) →
          Arguments.ofList args = .ok arguments → IsUnblocked world.files arguments →
            IsUnloaded context world arguments settings fault →
              (run context world args).ending = endingOf fault :=
  ⟨endsLoading_load, fun _ _ _ _ => Rest.Client.endsLoading_fetchSnapshot,
    fun _ _ _ _ _ _ _ => ending_run_of_isUnloaded⟩

def unconnected : Context Unit where
  transport := Rest.unconnected

/-- A tree with a file that holds a text, and with other entries. -/
def treeWith (text : String) (others : List (List String × FileEntry)) : FileTree where
  entries := (["s.json"], .file (Text.encodeUtf8 text.toList)) :: others

def worldWith (files : FileTree) : World Unit where
  files
  server := ()

/-- A world with one file, which holds a text. -/
def worldOf (text : String) : World Unit :=
  worldWith (treeWith text [])

def snapshotPath : FilePath := ⟨"", ["s.json"]⟩

def snapshotArguments : Arguments where
  path := ⟨"", ["m"]⟩
  fromSnapshot := some snapshotPath

theorem readSettings_unconnected {files : FileTree} (absent : environmentText files = .ok []) :
    readSettings unconnected files = .ok ({}, 20) := by
  have none : EnvironmentFile.read [] [] = [] := by cbv
  have settings : Settings.load [] [] = .ok {} := by
    rw [Settings.load, none]
    rfl
  rw [readSettings, absent]
  apply bind_eq_ok.mpr
  exact ⟨[], rfl, bind_eq_ok.mpr ⟨{}, settings, rfl⟩⟩

theorem ofList_snapshotArguments :
    Arguments.ofList ["snapshot", "m", "--from-snapshot", "s.json"] = .ok snapshotArguments := by
  rfl

theorem isUnblocked_worldOf (text : String) :
    IsUnblocked (worldOf text).files snapshotArguments :=
  .inr rfl

theorem hasText_of_read {files : FileTree} {text : String}
    (read : files.read snapshotPath = .ok (Text.encodeUtf8 text.toList))
    (unified : Text.unifyNewlines text.toList = text.toList) : HasText files snapshotPath text :=
  ⟨_, text.toList, read, Text.decodeUtf8_encodeUtf8 _, by rw [unified, String.ofList_toList]⟩

theorem readDocument_snapshotPath (text : String) :
    readDocument (isJsonFile snapshotPath) text = readJson text :=
  rfl

theorem ending_run_brokenFile :
    (run unconnected (worldOf "[") ["snapshot", "m", "--from-snapshot", "s.json"]).ending
      = .exit 1 := by
  have text : HasText (worldOf "[").files snapshotPath "[" :=
    hasText_of_read rfl rfl
  have broken : readDocument (isJsonFile snapshotPath) "[" = .error .malformedJson :=
    (readDocument_snapshotPath "[").trans (by cbv)
  have failed := fst_run_load_of_error (s := ⟨(worldOf "[").files, []⟩) rfl text broken
  exact endsLoading_and_ending_run.2.2 _ _ _ _ _ _ _ (readSettings_unconnected rfl)
    ofList_snapshotArguments (isUnblocked_worldOf "[") (.snapshot rfl failed)

/-- A field that is null: its members cannot be looked up, and no reading catches that. -/
def nullField : String :=
  "\x7b\"fields\": [null]\x7d"

theorem escapes_nullField :
    ((Snapshot.load snapshotPath).run.run ⟨(worldOf nullField).files, []⟩).1
        = .error (.foreign .noMembers)
      ∧ (run unconnected (worldOf nullField) ["snapshot", "m", "--from-snapshot", "s.json"]).ending
        = .failed (.foreign .noMembers) := by
  have text : HasText (worldOf nullField).files snapshotPath nullField :=
    hasText_of_read rfl rfl
  have read : readDocument (isJsonFile snapshotPath) nullField
      = .ok (.mapping [(.text "fields", .list [.null])]) :=
    (readDocument_snapshotPath nullField).trans (by cbv)
  have failed : ((Snapshot.load snapshotPath).run.run ⟨(worldOf nullField).files, []⟩).1
      = .error (.foreign .noMembers) := by
    rw [fst_run_load_of_ok rfl text read]
    rfl
  exact ⟨failed, ending_run_of_isUnloaded (readSettings_unconnected rfl)
    ofList_snapshotArguments (isUnblocked_worldOf nullField) (.snapshot rfl failed)⟩

end Command

end Typescribe
