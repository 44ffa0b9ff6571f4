import Typescribe.Proofs.Choices.Answers
import Typescribe.Proofs.Command.Output
import Typescribe.Proofs.Declaration.Resolution

/-!
This module contains whole runs of the command on a snapshot file: how each of them ends, and what
it leaves in the files. Nothing is written before all declarations are generated, and strictness
changes nothing but the exit code.
-/

namespace Typescribe.Command

open Declaration (Config GeneratedFile Generation generate checkCollisions)
open Snapshot (Contents)

variable {σ : Type} {context : Context σ} {world : World σ} {arguments : Arguments}
  {settings : Settings} {file : FilePath} {generation : Generation}

/-- What the snapshot file says, and the declarations that are generated from it. -/
def GeneratesFrom (files : FileTree) (file : FilePath) (config : Config)
    (generation : Generation) : Prop :=
  ∃ contents t, Step.Yields (Snapshot.load file) ⟨files, []⟩ contents t
    ∧ ∀ s : Session Unit, ∃ u, Step.Yields
        (generate config contents.schema (.ofDefinitions contents.definitions)) s generation u

/-- Why the command refuses to export: it writes nothing then. -/
inductive IsRefused (files : FileTree) (arguments : Arguments) (settings : Settings)
    (file : FilePath) : Except Fault Nat → Prop where
  | blocked (combined : arguments.split = false)
    (directory : isDirectory files arguments.path = .ok true) : IsRefused _ _ _ _ (.ok 1)
  | unread {problem : SourceProblem}
    (failed : ((Snapshot.load file).run.run ⟨files, []⟩).1 = .error (.source problem)) :
    IsRefused _ _ _ _ (.error (.source problem))
  | collided {contents : Contents} {t : Session FileTree} {found : Collisions}
    (loaded : Step.Yields (Snapshot.load file) ⟨files, []⟩ contents t)
    (collision : checkCollisions (configOf arguments settings).layout contents.schema
      = .error (.collision found)) : IsRefused _ _ _ _ (.error (.collision found))

/-- How the command ends on a snapshot file, and the world that it leaves. -/
inductive Ends (world : World σ) (arguments : Arguments) (settings : Settings) (file : FilePath) :
    Except Fault Nat → Running σ → Prop where
  | refused {result : Except Fault Nat} (h : IsRefused world.files arguments settings file result) :
    Ends _ _ _ _ result (startOf world)
  | unwritten (path : String) (cause : FileFault) (after : Running σ) :
    Ends _ _ _ _ (.error (.output path cause)) after
  | escaped (cause : Cause) (after : Running σ) : Ends _ _ _ _ (.error (.foreign cause)) after
  | exported {generation : Generation} {files : FileTree} {server : Cached σ}
    (generated : GeneratesFrom world.files file (configOf arguments settings) generation)
    (leaves : KeepsApart world.files arguments →
      Leaves world.files files arguments generation.files) :
    Ends _ _ _ _ (.ok (exitCode arguments generation.failures))
      { startOf world with files, server }

theorem run_onFiles_load :
    (World.onFiles (Snapshot.load file)).run.run ⟨startOf world, []⟩
      = (((Snapshot.load file).run.run ⟨world.files, []⟩).1,
          ⟨startOf world, ((Snapshot.load file).run.run ⟨world.files, []⟩).2.log⟩) := by
  have kept := Snapshot.keepsState_load file ⟨world.files, []⟩
  rw [World.onFiles, Step.run_within]
  change (_, (⟨{ startOf world with
    files := ((Snapshot.load file).run.run ⟨world.files, []⟩).2.state }, _⟩ : Session _)) = _
  rw [kept]
  rfl

theorem run_load_of_fromSnapshot (given : arguments.fromSnapshot = some file) :
    (load context arguments settings).run.run ⟨startOf world, []⟩
      = (((Snapshot.load file).run.run ⟨world.files, []⟩).1.map fun contents =>
            ⟨contents.schema, .ofDefinitions contents.definitions⟩,
          ⟨startOf world, ((Snapshot.load file).run.run ⟨world.files, []⟩).2.log⟩) := by
  have origin : origin? arguments settings = some (.snapshot file) := by
    simp [origin?, Arguments.origin?, given]
  unfold load
  rw [origin]
  simp only [loadSnapshot]
  rw [Step.run_bind, run_onFiles_load]
  rcases (Snapshot.load file).run.run ⟨world.files, []⟩ with ⟨fault | contents, t⟩
  · rfl
  · rfl

theorem isKeyed_of_load {contents : Contents} {t : Session FileTree}
    (loaded : Step.Yields (Snapshot.load file) ⟨world.files, []⟩ contents t) :
    Declaration.IsKeyed contents.schema := by
  intro item hi
  exact ((Snapshot.isWellFormed_of_yields_load loaded).collection_key item hi).symm

/-- What is exported when all goes well. -/
def exportOf (arguments : Arguments) (settings : Settings) (contents : Contents) : Generation :=
  Declaration.generationOf (configOf arguments settings) contents.schema
    (Declaration.renderedOf (configOf arguments settings) contents.schema fun collection field =>
      .ok (Ordered.get? (collection, field) (ChoiceSource.table contents.definitions)))

theorem yields_generate_exportOf {τ : Type} {contents : Contents}
    (passed : checkCollisions (configOf arguments settings).layout contents.schema = .ok ())
    (s : Session τ) :
    ∃ u, Step.Yields (generate (configOf arguments settings) contents.schema
      (.ofDefinitions contents.definitions)) s (exportOf arguments settings contents) u :=
  Declaration.exists_yields_generationOf
    (ChoiceSource.answersFrom_ofDefinitions contents.definitions) trivial passed

/-- The end of an export: the files are written, and the fields without a type are counted. -/
def writeGeneration (arguments : Arguments) (generation : Generation) : Step (Running σ) Nat := do
  let written ← World.onFiles
    (Files.writeFiles (outputDirectory arguments) (generation.files.map .ofGenerated))
  report .info ("Wrote " ++ toString written.length ++ " files")
  if !generation.failures.isEmpty then
    report .warning (toString generation.failures.length
      ++ " fields could not be typed and were degraded")
  return exitCode arguments generation.failures

theorem generateTo_eq (arguments : Arguments) (settings : Settings) (loaded : Loaded σ) :
    generateTo arguments settings loaded = (do
      report .info ("Exporting models to " ++ arguments.path.text)
      let generation ← World.onServer
        (generate (configOf arguments settings) loaded.schema loaded.choices)
      writeGeneration arguments generation) :=
  rfl

section Ends

variable {result : Except Fault Nat} {s after : Session (Running σ)}

theorem run_writeGeneration {paths : List FilePath} {t : Session FileTree}
    (written : Step.Yields
      (Files.writeFiles (outputDirectory arguments) (generation.files.map .ofGenerated))
      ⟨s.state.files, s.log⟩ paths t) :
    ∃ log, (writeGeneration arguments generation).run.run s
      = (.ok (exitCode arguments generation.failures),
          ⟨{ s.state with files := t.state }, log⟩) := by
  unfold writeGeneration
  rw [Step.run_bind, World.onFiles, Step.run_within, written]
  simp only
  rw [report, Step.run_bind_of_ok (Step.run_write _)]
  split
  · exact ⟨_, rfl⟩
  · exact ⟨_, rfl⟩

theorem run_writeGeneration_of_error {fault : Fault} {t : Session FileTree}
    (failed : (Files.writeFiles (outputDirectory arguments)
      (generation.files.map .ofGenerated)).run.run ⟨s.state.files, s.log⟩ = (.error fault, t)) :
    (writeGeneration arguments generation).run.run s
      = (.error fault, ⟨{ s.state with files := t.state }, t.log⟩) := by
  unfold writeGeneration
  rw [Step.run_bind, World.onFiles, Step.run_within, failed]

theorem writeGeneration_cases
    (h : (writeGeneration arguments generation).run.run s = (result, after)) :
    (∃ fault, Files.IsWriteFault fault ∧ result = .error fault)
      ∨ ∃ paths t, Step.Yields
            (Files.writeFiles (outputDirectory arguments) (generation.files.map .ofGenerated))
            ⟨s.state.files, s.log⟩ paths t
          ∧ result = .ok (exitCode arguments generation.failures)
          ∧ after.state = { s.state with files := t.state } := by
  have failing := Files.failsWith_writeFiles (outputDirectory arguments)
    (generation.files.map .ofGenerated) ⟨s.state.files, s.log⟩
  rcases written : (Files.writeFiles (outputDirectory arguments)
    (generation.files.map .ofGenerated)).run.run ⟨s.state.files, s.log⟩ with ⟨fault | paths, t⟩
  · rw [run_writeGeneration_of_error written] at h
    rw [written] at failing
    cases h
    exact .inl ⟨fault, failing fault rfl, rfl⟩
  · obtain ⟨log, ran⟩ := run_writeGeneration written
    cases ran.symm.trans h
    exact .inr ⟨paths, t, written, rfl, rfl⟩

/-- If no names collide, all that is left to do is to write. -/
theorem run_generateTo_of_passed {contents : Contents} (world : World σ) (log : List Log.Record)
    (passed : checkCollisions (configOf arguments settings).layout contents.schema = .ok ()) :
    ∃ server log', (generateTo arguments settings
        ⟨contents.schema, .ofDefinitions contents.definitions⟩).run.run ⟨startOf world, log⟩
      = (writeGeneration arguments (exportOf arguments settings contents)).run.run
          ⟨{ startOf world with server }, log'⟩ := by
  rw [generateTo_eq, report, Step.run_bind_of_ok (Step.run_write _), Step.run_bind, World.onServer,
    Step.run_within]
  obtain ⟨u, generated⟩ := yields_generate_exportOf passed ⟨(startOf world).server, _⟩
  rw [generated]
  exact ⟨u.state, u.log, rfl⟩

theorem ends_of_run_generateTo {contents : Contents} {t : Session FileTree} {log : List Log.Record}
    (read : arguments.path.IsRead)
    (loaded : Step.Yields (Snapshot.load file) ⟨world.files, []⟩ contents t)
    (h : (generateTo arguments settings
        ⟨contents.schema, .ofDefinitions contents.definitions⟩).run.run ⟨startOf world, log⟩
      = (result, after)) :
    Ends world arguments settings file result after.state := by
  cases check : checkCollisions (configOf arguments settings).layout contents.schema with
  | error fault =>
    -- The names are checked before anything is rendered or written.
    obtain ⟨found, rfl⟩ := Declaration.exists_of_checkCollisions_eq_error check
    rw [generateTo_eq, report, Step.run_bind_of_ok (Step.run_write _), Step.run_bind,
      World.onServer, Step.run_within, Declaration.run_generate_of_collision check] at h
    cases h
    exact .refused (.collided loaded check)
  | ok passed =>
    obtain ⟨_, generated⟩ := yields_generate_exportOf check (⟨(), []⟩ : Session Unit)
    obtain ⟨server, log', ran⟩ := run_generateTo_of_passed world log check
    rw [ran] at h
    rcases writeGeneration_cases h with ⟨fault, sort, rfl⟩ | ⟨paths, v, written, rfl, left⟩
    · cases sort with
      | refused path cause => exact .unwritten path cause _
      | unusable cause => exact .escaped cause _
    · rw [left]
      exact .exported ⟨contents, t, loaded, yields_generate_exportOf check⟩ fun apart =>
        leaves_of_writeFiles read (isKeyed_of_load loaded) apart generated written

theorem ends_of_run_load (read : arguments.path.IsRead)
    (given : arguments.fromSnapshot = some file)
    (h : (load context arguments settings >>= generateTo arguments settings).run.run
      ⟨startOf world, []⟩ = (result, after)) :
    Ends world arguments settings file result after.state := by
  have ends := Snapshot.endsLoading_load file ⟨world.files, []⟩
  rw [Step.run_bind, run_load_of_fromSnapshot given] at h
  rcases loaded : (Snapshot.load file).run.run ⟨world.files, []⟩ with ⟨fault | contents, t⟩
  · rw [loaded] at h ends
    cases h
    cases ends with
    | refused problem => exact .refused (.unread (congrArg Prod.fst loaded))
    | escaped => exact .escaped _ _
  · rw [loaded] at h
    exact ends_of_run_generateTo read loaded h

theorem run_snapshot_of_not_isUnblocked (context : Context σ) (settings : Settings)
    (blocked : ¬IsUnblocked s.state.files arguments) :
    ∃ log, arguments.split = false ∧ isDirectory s.state.files arguments.path = .ok true
          ∧ (snapshot context arguments settings).run.run s = (.ok 1, ⟨s.state, log⟩)
      ∨ ∃ cause, (snapshot context arguments settings).run.run s
          = (.error (.foreign cause), ⟨s.state, log⟩) := by
  obtain ⟨combined, other⟩ := not_or.mp blocked
  unfold snapshot
  rw [if_neg combined, Step.run_bind_of_ok Step.run_state]
  rcases directory : isDirectory s.state.files arguments.path with cause | _ | _
  · exact ⟨s.log, .inr ⟨cause, rfl⟩⟩
  · exact absurd directory other
  · exact ⟨_, .inl ⟨Bool.eq_false_iff.mpr combined, rfl, rfl⟩⟩

/-- Every run of the command on a snapshot file ends in one of these ways. -/
theorem ends_of_run_snapshot (read : arguments.path.IsRead)
    (given : arguments.fromSnapshot = some file)
    (h : (snapshot context arguments settings).run.run ⟨startOf world, []⟩ = (result, after)) :
    Ends world arguments settings file result after.state := by
  by_cases free : IsUnblocked world.files arguments
  · rw [run_snapshot_of_isUnblocked (s := ⟨startOf world, []⟩) free] at h
    exact ends_of_run_load read given h
  · obtain ⟨log, ⟨combined, directory, ran⟩ | ⟨cause, ran⟩⟩ :=
      run_snapshot_of_not_isUnblocked (s := ⟨startOf world, []⟩) context settings free
    · cases ran.symm.trans h
      exact .refused (.blocked combined directory)
    · cases ran.symm.trans h
      exact .escaped cause _

end Ends

/-! ### Whole runs -/

/-- Strictness changes the exit code only: the same is left. -/
theorem snd_run_generateTo_strict (strict : Bool) (loaded : Loaded σ) (s : Session (Running σ)) :
    ((generateTo { arguments with strict } settings loaded).run.run s).2
      = ((generateTo arguments settings loaded).run.run s).2 := by
  unfold generateTo
  apply Step.snd_run_bind_congr
  intro _ _
  apply Step.snd_run_bind_congr
  intro generation _
  apply Step.snd_run_bind_congr
  intro written _
  apply Step.snd_run_bind_congr
  intro _ _
  simp only
  split
  · rfl
  · rfl

theorem state_run_snapshot_strict (strict : Bool) (s : Session (Running σ)) :
    ((snapshot context { arguments with strict } settings).run.run s).2.state
      = ((snapshot context arguments settings).run.run s).2.state := by
  -- Whether the output is blocked does not depend on strictness, so both runs take the same way.
  have kept : ∀ arguments : Arguments, ¬IsUnblocked s.state.files arguments →
      ((snapshot context arguments settings).run.run s).2.state = s.state := by
    intro arguments blocked
    obtain ⟨log, ⟨-, -, ran⟩ | ⟨cause, ran⟩⟩ :=
      run_snapshot_of_not_isUnblocked context settings blocked
    · rw [ran]
    · rw [ran]
  by_cases free : IsUnblocked s.state.files arguments
  · have unblocked : IsUnblocked s.state.files { arguments with strict } := free
    rw [run_snapshot_of_isUnblocked free, run_snapshot_of_isUnblocked unblocked]
    apply congrArg Session.state
    apply Step.snd_run_bind_congr
    intro loaded t
    exact snd_run_generateTo_strict strict loaded t
  · rw [kept arguments free]
    exact kept _ free

/-- If its file can be loaded and no names collide, all that a run has left to do is to write. -/
theorem run_snapshot_of_loaded (context : Context σ) {contents : Contents}
    (given : arguments.fromSnapshot = some file) (free : IsUnblocked world.files arguments)
    (loaded : ((Snapshot.load file).run.run ⟨world.files, []⟩).1 = .ok contents)
    (passed : checkCollisions (configOf arguments settings).layout contents.schema = .ok ()) :
    ∃ server log, (snapshot context arguments settings).run.run ⟨startOf world, []⟩
      = (writeGeneration arguments (exportOf arguments settings contents)).run.run
          ⟨{ startOf world with server }, log⟩ := by
  rw [run_snapshot_of_isUnblocked (s := ⟨startOf world, []⟩) free, Step.run_bind,
    run_load_of_fromSnapshot given, loaded]
  exact run_generateTo_of_passed world _ passed

/-- A run exports to the end if its file can be loaded, no names collide, and it can write. -/
theorem run_of_written {contents : Contents} {args : List String} {threshold : Nat}
    {after : FileTree} (environment : readSettings context world.files = .ok (settings, threshold))
    (parsed : Arguments.ofList args = .ok arguments) (given : arguments.fromSnapshot = some file)
    (free : IsUnblocked world.files arguments)
    (loaded : ((Snapshot.load file).run.run ⟨world.files, []⟩).1 = .ok contents)
    (passed : checkCollisions (configOf arguments settings).layout contents.schema = .ok ())
    (writes : ∀ log, ∃ paths t, Step.Yields
      (Files.writeFiles (outputDirectory arguments)
        ((exportOf arguments settings contents).files.map .ofGenerated))
      ⟨world.files, log⟩ paths t ∧ t.state = after) :
    (run context world args).ending
        = .exit (exitCode arguments (exportOf arguments settings contents).failures)
      ∧ (run context world args).world.files = after := by
  obtain ⟨ending, left⟩ := run_of_ofList environment parsed
  obtain ⟨server, log, ran⟩ := run_snapshot_of_loaded context given free loaded passed
  obtain ⟨paths, t, written, rfl⟩ := writes log
  obtain ⟨log', ran'⟩ := run_writeGeneration (s := ⟨{ startOf world with server }, log⟩) written
  rw [ran, ran'] at ending left
  exact ⟨ending, congrArg World.files left⟩

theorem ending_run_of_unwritten {contents : Contents} {args : List String} {threshold : Nat}
    {fault : Fault} (environment : readSettings context world.files = .ok (settings, threshold))
    (parsed : Arguments.ofList args = .ok arguments) (given : arguments.fromSnapshot = some file)
    (free : IsUnblocked world.files arguments)
    (loaded : ((Snapshot.load file).run.run ⟨world.files, []⟩).1 = .ok contents)
    (passed : checkCollisions (configOf arguments settings).layout contents.schema = .ok ())
    (refused : ∀ files log, ((Files.writeFiles (outputDirectory arguments) files).run.run
      ⟨world.files, log⟩).1 = .error fault) :
    (run context world args).ending = endingOf fault := by
  obtain ⟨ending, -⟩ := run_of_ofList environment parsed
  obtain ⟨server, log, ran⟩ := run_snapshot_of_loaded context given free loaded passed
  have failed : (Files.writeFiles (outputDirectory arguments)
      ((exportOf arguments settings contents).files.map .ofGenerated)).run.run ⟨world.files, log⟩
      = (.error fault, _) := Prod.ext (refused _ log) rfl
  have stopped := run_writeGeneration_of_error
    (s := ⟨{ startOf world with server }, log⟩) failed
  rw [ran, stopped] at ending
  exact ending

theorem exitCode_eq_three_iff {failures : List FieldFault} :
    exitCode arguments failures = 3 ↔ arguments.strict = true ∧ failures ≠ [] := by
  unfold exitCode
  cases arguments.strict <;> cases failures <;> simp

theorem exitCode_eq_or (arguments : Arguments) (failures : List FieldFault) :
    exitCode arguments failures = 0 ∨ exitCode arguments failures = 3 := by
  unfold exitCode
  split
  · exact .inr rfl
  · exact .inl rfl

theorem IsRefused.code_eq_one {files : FileTree} {result : Except Fault Nat} {code : Nat}
    (h : IsRefused files arguments settings file result) (ended : endingAfter result = .exit code) :
    code = 1 := by
  cases h <;> cases ended <;> rfl

/--
A run on a snapshot file that gives an exit code. Where the command refuses to export or cannot
write, the code is one, and in the first case nothing has changed. Otherwise the files of the output
are written, and the code is three if a field of a strict run has no type and zero if not. Runs that
differ in strictness alone leave the same world.
-/
theorem run_fromSnapshot (context : Context σ) (world : World σ) {args : List String}
    (parsed : Arguments.ofList args = .ok arguments) (given : arguments.fromSnapshot = some file) :
    (∀ code, (run context world args).ending = .exit code →
        ∃ settings threshold result, readSettings context world.files = .ok (settings, threshold)
          ∧ ((snapshot context arguments settings).runOn (startOf world)).1 = result
          ∧ ((code = 1 ∧ IsRefused world.files arguments settings file result
                ∧ (run context world args).world = world)
              ∨ (code = 1 ∧ ∃ path cause, result = .error (.output path cause))
              ∨ ∃ generation,
                  GeneratesFrom world.files file (configOf arguments settings) generation
                  ∧ (KeepsApart world.files arguments → Leaves world.files
                      (run context world args).world.files arguments generation.files)
                  ∧ (run context world args).world.databases = world.databases
                  ∧ (code = 0 ∨ code = 3)
                  ∧ (code = 3 ↔ arguments.strict = true ∧ generation.failures ≠ [])))
      ∧ ∀ strict others, Arguments.ofList others = .ok { arguments with strict } →
          (run context world others).world = (run context world args).world := by
  constructor
  · intro code ended
    cases environment : readSettings context world.files with
    | error cause =>
      rw [run_of_readSettings_eq_error environment] at ended
      cases ended
    | ok read =>
      obtain ⟨settings, threshold⟩ := read
      obtain ⟨ending, left⟩ := run_of_ofList environment parsed
      refine ⟨settings, threshold, _, rfl, rfl, ?_⟩
      rcases ran : (snapshot context arguments settings).run.run ⟨startOf world, []⟩
        with ⟨result, after, log⟩
      have ends := ends_of_run_snapshot (Arguments.isRead_path_of_ofList parsed) given ran
      rw [ran] at ending left
      rw [Step.runOn, ran, left]
      have exited : endingAfter result = .exit code := ending.symm.trans ended
      cases ends with
      | refused refusal => exact .inl ⟨refusal.code_eq_one exited, refusal, rfl⟩
      | unwritten path cause =>
        cases exited
        exact .inr (.inl ⟨rfl, path, cause, rfl⟩)
      | escaped cause => cases exited
      | exported generated leaves =>
        cases exited
        exact .inr (.inr ⟨_, generated, leaves, rfl, exitCode_eq_or _ _, exitCode_eq_three_iff⟩)
  · intro strict others parsed'
    cases environment : readSettings context world.files with
    | error cause =>
      rw [run_of_readSettings_eq_error environment, run_of_readSettings_eq_error environment]
    | ok read =>
      rw [(run_of_ofList environment parsed).2, (run_of_ofList environment parsed').2]
      exact congrArg withoutAnswers (state_run_snapshot_strict strict _)

/-- A field of no known type, so that a run degrades it. -/
def untypedField : String :=
  "\x7b\"collections\": [\x7b\"collection\": \"a\"\x7d], "
    ++ "\"fields\": [\x7b\"collection\": \"a\", \"field\": \"x\"\x7d]\x7d"

def untypedContents : Contents where
  schema := ⟨[("a", ⟨"a", false, [
    ("x", { collection := "a", field := "x", typeTag := "unknown" })]⟩)], []⟩
  definitions := []

theorem fst_run_load_untypedField {files : FileTree}
    (read : files.read snapshotPath = .ok (Text.encodeUtf8 untypedField.toList)) :
    ((Snapshot.load snapshotPath).run.run ⟨files, []⟩).1 = .ok untypedContents := by
  have text : Snapshot.HasText files snapshotPath untypedField := hasText_of_read read rfl
  have document : Snapshot.readDocument (Snapshot.isJsonFile snapshotPath) untypedField
      = .ok (.mapping [
        (.text "collections", .list [.mapping [(.text "collection", .text "a")]]),
        (.text "fields", .list [.mapping [(.text "collection", .text "a"),
          (.text "field", .text "x")]])]) :=
    (readDocument_snapshotPath untypedField).trans (by cbv)
  rw [Snapshot.fst_run_load_of_ok rfl text document]
  rfl

theorem checkCollisions_untypedContents :
    checkCollisions .combined untypedContents.schema = .ok () :=
  Declaration.checkCollisions_eq_ok.mpr (Declaration.collisions_eq_nil_iff.mpr (by decide))

/-- A run on the untyped field in a tree in which the file `m` can be written. -/
theorem run_untypedField {files : FileTree} {place args : List String} {arguments : Arguments}
    (parsed : Arguments.ofList args = .ok arguments)
    (given : arguments.fromSnapshot = some snapshotPath) (output : arguments.path = ⟨"", ["m"]⟩)
    (combined : arguments.split = false) (free : isDirectory files ⟨"", ["m"]⟩ = .ok false)
    (absent : environmentText files = .ok [])
    (read : files.read snapshotPath = .ok (Text.encodeUtf8 untypedField.toList))
    (there : files.ensureDirectory ⟨"", []⟩ = (.ok (), files))
    (writable : ∀ bytes, files.write ⟨"", ["m"]⟩ bytes = .ok (files.put place (.file bytes))) :
    (run unconnected (worldWith files) args).ending
        = .exit (exitCode arguments (exportOf arguments {} untypedContents).failures)
      ∧ ∃ content : String, (run unconnected (worldWith files) args).world.files
        = files.put place (.file (Text.encodeUtf8 content.toList)) := by
  have layout := layout_of_combined combined {}
  have directory : outputDirectory arguments = ⟨"", []⟩ := by
    rw [outputDirectory, combined, output]
    rfl
  obtain ⟨content, generated⟩ : ∃ content,
      (exportOf arguments {} untypedContents).files = [⟨"m", content⟩] := by
    simp only [exportOf, Declaration.generationOf, Declaration.outputFiles, layout]
    exact ⟨_, by rw [Declaration.combinedFiles, configOf, output]; rfl⟩
  have unblocked : IsUnblocked (worldWith files).files arguments := .inr (output ▸ free)
  have writes : ∀ log, ∃ paths t, Step.Yields (Files.writeFiles (outputDirectory arguments)
        ((exportOf arguments {} untypedContents).files.map .ofGenerated)) ⟨files, log⟩ paths t
      ∧ t.state = files.put place (.file (Text.encodeUtf8 content.toList)) := by
    intro log
    rw [generated, directory]
    have prepared : Step.Yields (Files.ensureDirectory ⟨"", []⟩ ⟨"", []⟩) ⟨files, log⟩ ()
        ⟨files, log⟩ := Files.yields_ensureDirectory rfl _ there
    have written : Step.Yields (Files.writeFile ⟨"", []⟩ (.ofGenerated ⟨"m", content⟩))
        ⟨files, log⟩ ⟨"", ["m"]⟩ ⟨files.put place (.file (Text.encodeUtf8 content.toList)), log⟩ :=
      Files.yields_writeFile_ofGenerated rfl rfl there (writable _)
    exact ⟨_, _, prepared.bind (Step.yields_mapM.mpr (.cons written .nil)), rfl⟩
  obtain ⟨ending, left⟩ := run_of_written (readSettings_unconnected absent) parsed given unblocked
    (fst_run_load_untypedField read) (layout ▸ checkCollisions_untypedContents) writes
  exact ⟨ending, content, left⟩

def strictArguments : Arguments :=
  { snapshotArguments with strict := true }

theorem ending_run_untypedField :
    (run unconnected (worldOf untypedField)
      ["snapshot", "m", "--from-snapshot", "s.json", "--strict"]).ending = .exit 3 := by
  have parsed : Arguments.ofList ["snapshot", "m", "--from-snapshot", "s.json", "--strict"]
      = .ok strictArguments := rfl
  have writable : ∀ bytes, (worldOf untypedField).files.write ⟨"", ["m"]⟩ bytes
      = .ok ((worldOf untypedField).files.put ["m"] (.file bytes)) := fun _ => rfl
  have failures : (exportOf strictArguments {} untypedContents).failures
      = [⟨"a", "x", .unsupportedType "unknown"⟩] := rfl
  have ending := (run_untypedField parsed rfl rfl rfl rfl rfl rfl rfl writable).1
  rw [failures] at ending
  exact ending

theorem run_fromSnapshot_untypedField :
    let plain := ["snapshot", "m", "--from-snapshot", "s.json"]
    let strict := plain ++ ["--strict"]
    (run unconnected (worldOf untypedField) strict).ending = .exit 3
      ∧ (∃ generation, GeneratesFrom (worldOf untypedField).files snapshotPath
            (configOf strictArguments {}) generation ∧ generation.failures ≠ []
          ∧ Leaves (worldOf untypedField).files
            (run unconnected (worldOf untypedField) strict).world.files strictArguments
            generation.files)
      ∧ (run unconnected (worldOf untypedField) plain).world
        = (run unconnected (worldOf untypedField) strict).world := by
  intro plain strict
  have parsed : Arguments.ofList strict = .ok strictArguments := rfl
  have given : strictArguments.fromSnapshot = some snapshotPath := rfl
  have absent : environmentText (worldOf untypedField).files = .ok [] := rfl
  have free : (worldOf untypedField).files.IsLinkFree := FileTree.isLinkFree_of_entries (by decide)
  obtain ⟨exits, same⟩ := run_fromSnapshot unconnected (worldOf untypedField) parsed given
  refine ⟨ending_run_untypedField, ?_, same false plain ofList_snapshotArguments⟩
  obtain ⟨settings, threshold, result, found, -, cases⟩ := exits 3 ending_run_untypedField
  cases (readSettings_unconnected absent).symm.trans found
  rcases cases with ⟨other, -⟩ | ⟨other, -⟩ | ⟨generation, generated, leaves, -, -, strictly⟩
  · cases other
  · cases other
  · exact ⟨generation, generated, (strictly.mp rfl).2, leaves ⟨free, nofun⟩⟩

/-! ### Runs that leave something else -/

def outcomeOf (files : FileTree) (path : String) (switches : List String) : Outcome Unit :=
  run unconnected (worldWith files) (["snapshot", path, "--from-snapshot", "s.json"] ++ switches)

/-- A tree in which the output is a link to another file. -/
def linkedTree : FileTree :=
  treeWith untypedField [(["m"], .link ⟨"", ["notes"]⟩), (["notes"], .file [255])]

theorem outcomeOf_linkedTree :
    (outcomeOf linkedTree "m" []).ending = .exit 0
      ∧ linkedTree.read ⟨"", ["notes"]⟩ = .ok [255]
      ∧ (outcomeOf linkedTree "m" []).world.files.read ⟨"", ["notes"]⟩ ≠ .ok [255] := by
  have free : isDirectory linkedTree ⟨"", ["m"]⟩ = .ok false := rfl
  have absent : environmentText linkedTree = .ok [] := rfl
  have document : linkedTree.read snapshotPath = .ok (Text.encodeUtf8 untypedField.toList) := rfl
  have there : linkedTree.ensureDirectory ⟨"", []⟩ = (.ok (), linkedTree) := rfl
  have writable : ∀ bytes, linkedTree.write ⟨"", ["m"]⟩ bytes
      = .ok (linkedTree.put ["notes"] (.file bytes)) := fun _ => rfl
  have code : ∀ failures, exitCode snapshotArguments failures = 0 := fun _ => rfl
  have parsed : Arguments.ofList (["snapshot", "m", "--from-snapshot", "s.json"] ++ [])
      = .ok snapshotArguments := rfl
  obtain ⟨ending, content, left⟩ := run_untypedField parsed rfl rfl rfl free absent document there
    writable
  rw [code] at ending
  unfold outcomeOf
  rw [left]
  refine ⟨ending, rfl, fun same => ?_⟩
  have read : (linkedTree.put ["notes"] (.file (Text.encodeUtf8 content.toList))).read
      ⟨"", ["notes"]⟩ = .ok (Text.encodeUtf8 content.toList) := rfl
  -- The bytes that were there are no text.
  have decoded := Text.decodeUtf8_encodeUtf8 content.toList
  rw [Except.ok.inj (read.symm.trans same)] at decoded
  cases decoded

/-- Two collections without fields. -/
def twins : String :=
  "\x7b\"collections\": [\x7b\"collection\": \"articles_a\"\x7d, "
    ++ "\x7b\"collection\": \"articles_b\"\x7d]\x7d"

def twinContents : Contents where
  schema := ⟨[("articles_a", ⟨"articles_a", false, []⟩),
    ("articles_b", ⟨"articles_b", false, []⟩)], []⟩
  definitions := []

/-- A tree that takes the names of their files for the same. -/
def aliasTree : FileTree :=
  { treeWith twins [] with
    fold := fun name => if name = "ArticlesB.d.ts" then "ArticlesA.d.ts" else name }

theorem fst_run_load_aliasTree :
    ((Snapshot.load snapshotPath).run.run ⟨aliasTree, []⟩).1 = .ok twinContents := by
  have text : Snapshot.HasText aliasTree snapshotPath twins := hasText_of_read rfl rfl
  have document : Snapshot.readDocument (Snapshot.isJsonFile snapshotPath) twins
      = .ok (.mapping [(.text "collections", .list [
        .mapping [(.text "collection", .text "articles_a")],
        .mapping [(.text "collection", .text "articles_b")]])]) :=
    (readDocument_snapshotPath twins).trans (by cbv)
  rw [Snapshot.fst_run_load_of_ok rfl text document]
  rfl

/-- The tree in which their files have been written, one in the place of the other. -/
def aliasTreeAfter (a b index : String) : FileTree :=
  (((aliasTree.put ["m"] .directory).put ["m", "ArticlesA.d.ts"]
    (.file (Text.encodeUtf8 a.toList))).put ["m", "ArticlesA.d.ts"]
    (.file (Text.encodeUtf8 b.toList))).put ["m", "index.d.ts"]
    (.file (Text.encodeUtf8 index.toList))

theorem yields_writeFiles_aliasTree (a b index : String) (log : List Log.Record) :
    ∃ paths t, Step.Yields (Files.writeFiles ⟨"", ["m"]⟩
        [.ofGenerated ⟨"ArticlesA.d.ts", a⟩, .ofGenerated ⟨"ArticlesB.d.ts", b⟩,
          .ofGenerated ⟨"index.d.ts", index⟩]) ⟨aliasTree, log⟩ paths t
      ∧ t.state = aliasTreeAfter a b index := by
  let bytes (text : String) : FileEntry := .file (Text.encodeUtf8 text.toList)
  let t := aliasTree.put ["m"] .directory
  let u := t.put ["m", "ArticlesA.d.ts"] (bytes a)
  let v := u.put ["m", "ArticlesA.d.ts"] (bytes b)
  let w := v.put ["m", "index.d.ts"] (bytes index)
  have prepared : Step.Yields (Files.ensureDirectory ⟨"", ["m"]⟩ ⟨"", ["m"]⟩) ⟨aliasTree, log⟩ ()
      ⟨t, log⟩ := Files.yields_ensureDirectory rfl _ rfl
  have first : Step.Yields (Files.writeFile ⟨"", ["m"]⟩ (.ofGenerated ⟨"ArticlesA.d.ts", a⟩))
      ⟨t, log⟩ ⟨"", ["m", "ArticlesA.d.ts"]⟩ ⟨u, log⟩ :=
    Files.yields_writeFile_ofGenerated rfl rfl rfl rfl
  have second : Step.Yields (Files.writeFile ⟨"", ["m"]⟩ (.ofGenerated ⟨"ArticlesB.d.ts", b⟩))
      ⟨u, log⟩ ⟨"", ["m", "ArticlesB.d.ts"]⟩ ⟨v, log⟩ :=
    Files.yields_writeFile_ofGenerated rfl rfl rfl rfl
  have third : Step.Yields (Files.writeFile ⟨"", ["m"]⟩ (.ofGenerated ⟨"index.d.ts", index⟩))
      ⟨v, log⟩ ⟨"", ["m", "index.d.ts"]⟩ ⟨w, log⟩ :=
    Files.yields_writeFile_ofGenerated rfl rfl rfl rfl
  have chain := Step.Chain.cons first (.cons second (.cons third .nil))
  exact ⟨_, _, prepared.bind (Step.yields_mapM.mpr chain), rfl⟩

def splitArguments : Arguments :=
  { snapshotArguments with split := true }

theorem outcomeOf_aliasTree :
    (outcomeOf aliasTree "m" ["--split"]).ending = .exit 0
      ∧ ∃ generation, GeneratesFrom aliasTree snapshotPath (configOf splitArguments {}) generation
        ∧ ∃ file ∈ generation.files, (outcomeOf aliasTree "m" ["--split"]).world.files.read
            (outputPath splitArguments file) ≠ .ok (Text.encodeUtf8 file.content.toList) := by
  have passed : checkCollisions (configOf splitArguments {}).layout twinContents.schema = .ok () :=
    Declaration.checkCollisions_eq_ok.mpr (Declaration.collisions_eq_nil_iff.mpr (by decide))
  have parsed : Arguments.ofList (["snapshot", "m", "--from-snapshot", "s.json"] ++ ["--split"])
      = .ok splitArguments := rfl
  have absent : environmentText aliasTree = .ok [] := rfl
  have unblocked : IsUnblocked (worldWith aliasTree).files splitArguments := .inl rfl
  obtain ⟨a, b, index, differ, files⟩ : ∃ a b index : String, a ≠ b
      ∧ (exportOf splitArguments {} twinContents).files
        = [⟨"ArticlesA.d.ts", a⟩, ⟨"ArticlesB.d.ts", b⟩, ⟨"index.d.ts", index⟩] :=
    ⟨"export interface ArticlesA \x7b\n\x7d\n", "export interface ArticlesB \x7b\n\x7d\n", _,
      by decide, rfl⟩
  have writes : ∀ log, ∃ paths t, Step.Yields (Files.writeFiles (outputDirectory splitArguments)
        ((exportOf splitArguments {} twinContents).files.map .ofGenerated))
        ⟨(worldWith aliasTree).files, log⟩ paths t ∧ t.state = aliasTreeAfter a b index := by
    intro log
    rw [files]
    exact yields_writeFiles_aliasTree a b index log
  have code : ∀ failures, exitCode splitArguments failures = 0 := fun _ => rfl
  obtain ⟨ending, left⟩ := run_of_written (readSettings_unconnected absent) parsed rfl unblocked
    fst_run_load_aliasTree passed writes
  rw [code] at ending
  unfold outcomeOf
  rw [left]
  obtain ⟨t, loaded⟩ := Step.exists_yields fst_run_load_aliasTree
  refine ⟨ending, _, ⟨twinContents, t, loaded, yields_generate_exportOf passed⟩,
    ⟨"ArticlesA.d.ts", a⟩, ?_, fun same => ?_⟩
  · rw [files]
    exact List.mem_cons_self
  · have read : (aliasTreeAfter a b index).read ⟨"", ["m", "ArticlesA.d.ts"]⟩
        = .ok (Text.encodeUtf8 b.toList) := rfl
    have decoded := congrArg Text.decodeUtf8 (Except.ok.inj (read.symm.trans same))
    rw [Text.decodeUtf8_encodeUtf8, Text.decodeUtf8_encodeUtf8] at decoded
    exact differ (String.toList_inj.mp (Option.some.inj decoded)).symm

/-- A tree in which a file is in the place of the directory of the output. -/
def blockedTree : FileTree :=
  treeWith untypedField [(["blocked"], .file [])]

def blockedArguments : Arguments :=
  { strictArguments with path := ⟨"", ["blocked", "m"]⟩ }

theorem outcomeOf_blockedTree :
    (outcomeOf blockedTree "blocked/m" ["--strict"]).ending = .exit 1
      ∧ ∃ generation, GeneratesFrom blockedTree snapshotPath (configOf blockedArguments {}) generation
        ∧ generation.failures ≠ [] := by
  have parsed : Arguments.ofList
      (["snapshot", "blocked/m", "--from-snapshot", "s.json"] ++ ["--strict"])
      = .ok blockedArguments := rfl
  have absent : environmentText blockedTree = .ok [] := rfl
  have free : IsUnblocked (worldWith blockedTree).files blockedArguments := .inr rfl
  have read : blockedTree.read snapshotPath = .ok (Text.encodeUtf8 untypedField.toList) := rfl
  have loaded := fst_run_load_untypedField read
  have failures : (exportOf blockedArguments {} untypedContents).failures
      = [⟨"a", "x", .unsupportedType "unknown"⟩] := rfl
  have directory : outputDirectory blockedArguments = ⟨"", ["blocked"]⟩ := rfl
  have refused (files : List Files.OutputFile) (log : List Log.Record) :
      ((Files.writeFiles (outputDirectory blockedArguments) files).run.run ⟨blockedTree, log⟩).1
        = .error (.output "blocked" .alreadyExists) := by
    have failed : (Files.ensureDirectory ⟨"", ["blocked"]⟩ ⟨"", ["blocked"]⟩).run.run
        ⟨blockedTree, log⟩ = (.error (.output "blocked" .alreadyExists), ⟨blockedTree, log⟩) :=
      Files.run_ensureDirectory rfl _ rfl
    rw [directory]
    exact Step.fst_run_bind_of_error (congrArg Prod.fst failed)
  constructor
  · exact ending_run_of_unwritten (readSettings_unconnected absent) parsed rfl free loaded
      checkCollisions_untypedContents refused
  · obtain ⟨t, yields⟩ := Step.exists_yields loaded
    exact ⟨_, ⟨untypedContents, t, yields,
      yields_generate_exportOf checkCollisions_untypedContents⟩, by rw [failures]; nofun⟩

/--
The tree must have no links and take no names for the same, or else a run that ends well can change
other files, or leave files without their contents. A strict run that cannot write ends like any
other, whether or not a field has no type.
-/
theorem run_fromSnapshot_exceptions :
    ((outcomeOf linkedTree "m" []).ending = .exit 0
        ∧ linkedTree.read ⟨"", ["notes"]⟩ = .ok [255]
        ∧ (outcomeOf linkedTree "m" []).world.files.read ⟨"", ["notes"]⟩ ≠ .ok [255])
      ∧ ((outcomeOf aliasTree "m" ["--split"]).ending = .exit 0
        ∧ ∃ generation, GeneratesFrom aliasTree snapshotPath (configOf splitArguments {}) generation
          ∧ ∃ file ∈ generation.files, (outcomeOf aliasTree "m" ["--split"]).world.files.read
              (outputPath splitArguments file) ≠ .ok (Text.encodeUtf8 file.content.toList))
      ∧ (outcomeOf blockedTree "blocked/m" ["--strict"]).ending = .exit 1
        ∧ ∃ generation, GeneratesFrom blockedTree snapshotPath (configOf blockedArguments {}) generation
          ∧ generation.failures ≠ [] :=
  ⟨outcomeOf_linkedTree, outcomeOf_aliasTree, outcomeOf_blockedTree⟩

end Typescribe.Command
