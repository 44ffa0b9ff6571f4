import Typescribe.Proofs.Command.Arguments
import Typescribe.Proofs.Command.Loading
import Typescribe.Proofs.Files.Ending
import Typescribe.Proofs.Files.Generated

/-!
This module contains the files of an export: where they go, and that a tree that keeps them apart has
them all in the end, and else what it had before.
-/

namespace Typescribe.Command

open Declaration (GeneratedFile Generation FoldsCaseAtMost generate)
open FileTree (IsMade)

variable {σ : Type} {arguments : Arguments} {settings : Settings} {generation : Generation}

/-- Where a generated file goes: to the path of the output, or directly inside it. -/
def outputPath (arguments : Arguments) (file : GeneratedFile) : FilePath :=
  if arguments.split then ⟨arguments.path.root, arguments.path.parts ++ [file.path]⟩
  else arguments.path

/--
What an export leaves: its files can be read, and all else is as before, except for directories that
were missing on the way to them.
-/
structure Leaves (before after : FileTree) (arguments : Arguments) (files : List GeneratedFile) :
    Prop where
  read : ∀ file ∈ files, ∃ bytes, after.read (outputPath arguments file) = .ok bytes
    ∧ Text.decodeUtf8 bytes = some file.content.toList
  elsewhere : ∀ place, (∀ file ∈ files, after.placeOf (outputPath arguments file) ≠ .ok place) →
    after.entryAt? place = before.entryAt? place
      ∨ IsMade before after (outputDirectory arguments) place
  fold : after.fold = before.fold
  workingDirectory : after.workingDirectory = before.workingDirectory

/--
The tree has different places for the files of an output: it has no links, and if there can be
several files, it takes names for the same only if they differ in letter case at most.
-/
structure KeepsApart (files : FileTree) (arguments : Arguments) : Prop where
  free : files.IsLinkFree
  folds : arguments.split = true → FoldsCaseAtMost files.fold

variable {schema : Schema} {choices : ChoiceSource σ} {s t : Session σ}

theorem layout_of_split (settings : Settings) (split : arguments.split = true) :
    (configOf arguments settings).layout = .split :=
  if_pos split

theorem layout_of_combined (combined : arguments.split = false) (settings : Settings) :
    (configOf arguments settings).layout = .combined :=
  if_neg (by rw [combined]; exact Bool.false_ne_true)

theorem files_of_not_split (combined : arguments.split = false)
    (h : Step.Yields (generate (configOf arguments settings) schema choices) s generation t) :
    ∃ content, generation.files = [⟨arguments.path.name, content⟩] := by
  have layout := layout_of_combined combined settings
  obtain ⟨-, rendered, u, -, -, -, rfl⟩ := Declaration.generationOf_of_generate h
  simp only [Declaration.generationOf, Declaration.outputFiles, layout]
  exact ⟨_, rfl⟩

theorem pathOf_of_generate (read : arguments.path.IsRead)
    (h : Step.Yields (generate (configOf arguments settings) schema choices) s generation t) :
    ∀ file ∈ generation.files,
      Files.pathOf (outputDirectory arguments) (.ofGenerated file) = outputPath arguments file
        ∧ (outputPath arguments file).parent = outputDirectory arguments := by
  intro file hf
  unfold outputPath outputDirectory
  cases split : arguments.split with
  | true =>
    have layout := layout_of_split settings split
    obtain ⟨-, entry⟩ := Declaration.isEntryName_of_generate layout h file hf
    refine ⟨FilePath.join_ofString entry arguments.path, ?_⟩
    simp [FilePath.parent]
  | false =>
    obtain ⟨content, files⟩ := files_of_not_split split h
    rw [files, List.mem_singleton] at hf
    rw [hf]
    exact ⟨FilePath.join_parent_name read, rfl⟩

theorem isFileAt_of_writeFiles {before after : Session FileTree} {results : List FilePath}
    (read : arguments.path.IsRead) (keyed : Declaration.IsKeyed schema)
    (apart : KeepsApart before.state arguments)
    (generated : Step.Yields (generate (configOf arguments settings) schema choices) s generation t)
    (written : Step.Yields
      (Files.writeFiles (outputDirectory arguments) (generation.files.map .ofGenerated))
      before results after) :
    ∀ file ∈ generation.files, ∃ place, Files.IsFileAt after.state (outputPath arguments file) place
      (Text.codePoints file.content) := by
  have paths := pathOf_of_generate read generated
  intro file hf
  cases split : arguments.split with
  | true =>
    have layout := layout_of_split settings split
    have named := Declaration.isEntryName_of_generate layout generated
    obtain ⟨passed, -⟩ := Declaration.generationOf_of_generate generated
    have distinct := Declaration.nodup_foldCase_paths keyed (layout ▸ passed)
    rw [← Declaration.paths_of_generate layout generated] at distinct
    have targets := Declaration.nodup_fold_paths (apart.folds split) (fun f hf => (named f hf).1)
      distinct
    obtain ⟨place, -, -, -, all⟩ := Files.isFileAt_of_yields_writeFiles apart.free
      (List.forall_mem_map.mpr fun f hf => (named f hf).2) targets written
    have there := List.forall_mem_map.mp all file hf
    rw [← Files.pathOf, (paths file hf).1] at there
    exact ⟨_, there⟩
  | false =>
    obtain ⟨content, files⟩ := files_of_not_split split generated
    rw [files] at paths hf written
    rw [List.mem_singleton] at hf
    obtain ⟨path, inside⟩ := paths _ List.mem_cons_self
    obtain ⟨place, there⟩ := Files.isFileAt_of_yields_writeFiles_singleton
      (by rw [path]; exact inside) written
    rw [hf, ← path]
    exact ⟨place, there⟩

theorem leaves_of_writeFiles {before after : Session FileTree} {results : List FilePath}
    (read : arguments.path.IsRead) (keyed : Declaration.IsKeyed schema)
    (apart : KeepsApart before.state arguments)
    (generated : Step.Yields (generate (configOf arguments settings) schema choices) s generation t)
    (written : Step.Yields
      (Files.writeFiles (outputDirectory arguments) (generation.files.map .ofGenerated))
      before results after) :
    Leaves before.state after.state arguments generation.files := by
  have paths := pathOf_of_generate read generated
  have inside : ∀ file ∈ generation.files.map Files.OutputFile.ofGenerated,
      (Files.pathOf (outputDirectory arguments) file).parent = outputDirectory arguments := by
    refine List.forall_mem_map.mpr fun file hf => ?_
    rw [(paths file hf).1]
    exact (paths file hf).2
  obtain ⟨places, grows, led⟩ := Files.grows_of_yields_writeFiles inside written
  refine ⟨?_, ?_, grows.fold, grows.workingDirectory⟩
  · intro file hf
    obtain ⟨place, there⟩ := isFileAt_of_writeFiles read keyed apart generated written file hf
    exact there.read_string
  · intro place other
    apply grows.elsewhere
    intro target
    obtain ⟨_, listed, leads⟩ := exists_of_mem_right led target
    obtain ⟨file, hf, rfl⟩ := List.mem_map.mp listed
    rw [(paths file hf).1] at leads
    exact other file hf leads

end Typescribe.Command
