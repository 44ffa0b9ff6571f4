import Typescribe.Proofs.Files.Growth

/-!
This module contains how the writing of files ends: with all of them, or at the first one that the
tree refuses. In both cases the files before the end are there, and no other file has changed.
-/

namespace Typescribe.Files

open FileTree (Evolves)

variable {s t : Session FileTree} {directory path : FilePath} {place : List String}
  {file : OutputFile} {files done others : List OutputFile}

/-! ### Runs of the single steps -/

theorem run_requireUsable {σ : Type} (usable : path.isUsable) (s : Session σ) :
    (requireUsable path : Step σ Unit).run.run s = (.ok (), s) := by
  rw [requireUsable, if_pos usable]
  rfl

theorem run_ensureDirectory {result : Except FileFault Unit} {tree : FileTree}
    (usable : path.isUsable) (reported : FilePath)
    (h : s.state.ensureDirectory path = (result, tree)) :
    (ensureDirectory reported path).run.run s
      = (result.mapError (.output reported.text), { s with state := tree }) := by
  unfold ensureDirectory
  rw [Step.run_bind_of_ok (run_requireUsable usable s), Step.run_bind_of_ok Step.run_state]
  simp only [h]
  rw [Step.run_bind_of_ok (Step.run_setState _), Step.run_ofExcept]

theorem yields_ensureDirectory {tree : FileTree} (usable : path.isUsable) (reported : FilePath)
    (made : s.state.ensureDirectory path = (.ok (), tree)) :
    Step.Yields (ensureDirectory reported path) s () { s with state := tree } :=
  run_ensureDirectory usable reported made

/-- The bytes that are written for a file: none if its text cannot be encoded. -/
def bytesOf (file : OutputFile) : List Nat :=
  (Text.encode? file.content).getD []

theorem run_writeText_of_ok {tree : FileTree} (usable : path.isUsable) (file : OutputFile)
    (h : s.state.write path (bytesOf file) = .ok tree) :
    (writeText path file.content).run.run s
      = (if (Text.encode? file.content).isNone then .error (.foreign .unencodableText)
          else .ok (), { s with state := tree }) := by
  unfold writeText
  rw [Step.run_bind_of_ok (run_requireUsable usable s), Step.run_bind_of_ok Step.run_state]
  unfold bytesOf at h
  simp only [h]
  rw [Step.run_bind_of_ok (Step.run_setState _)]
  split
  · rfl
  · rfl

theorem yields_writeFile {tree after : FileTree} (usable : (pathOf directory file).isUsable)
    (made : s.state.ensureDirectory (pathOf directory file).parent = (.ok (), tree))
    (written : tree.write (pathOf directory file) (bytesOf file) = .ok after)
    (encodable : Text.encode? file.content ≠ none) :
    Step.Yields (writeFile directory file) s (pathOf directory file) { s with state := after } := by
  have prepared :=
    run_ensureDirectory (FilePath.isUsable_parent usable) (pathOf directory file) made
  have ran := run_writeText_of_ok (s := { s with state := tree }) usable file written
  rw [if_neg (by simpa using encodable)] at ran
  unfold writeFile
  simp only
  rw [← pathOf, Step.Yields, Step.run_bind_of_ok prepared, Step.run_bind_of_ok ran]
  rfl

/-- Writing a generated file in a directory that is there. -/
theorem yields_writeFile_ofGenerated {root name content : String} {parts : List String}
    {after : FileTree}
    (named : FilePath.ofString name = ⟨"", [name]⟩)
    (usable : FilePath.isUsable ⟨root, parts ++ [name]⟩)
    (there : s.state.ensureDirectory ⟨root, parts⟩ = (.ok (), s.state))
    (written : s.state.write ⟨root, parts ++ [name]⟩
      (Text.encodeUtf8 content.toList) = .ok after) :
    Step.Yields (writeFile ⟨root, parts⟩ (.ofGenerated ⟨name, content⟩)) s
      ⟨root, parts ++ [name]⟩ { s with state := after } := by
  have target : pathOf ⟨root, parts⟩ (.ofGenerated ⟨name, content⟩) = ⟨root, parts ++ [name]⟩ := by
    rw [pathOf, OutputFile.ofGenerated, named]
    rfl
  have inside : FilePath.parent ⟨root, parts ++ [name]⟩ = ⟨root, parts⟩ := by
    rw [FilePath.parent, List.dropLast_concat]
  have encoded : Text.encode? (OutputFile.ofGenerated ⟨name, content⟩).content
      = some (Text.encodeUtf8 content.toList) := Text.encode?_codePoints _
  have bytes : bytesOf (.ofGenerated ⟨name, content⟩) = Text.encodeUtf8 content.toList := by
    rw [bytesOf, encoded]
    rfl
  rw [← inside, ← target] at there
  rw [← target, ← bytes] at written
  rw [← target] at usable ⊢
  exact yields_writeFile usable there written (encoded ▸ Option.some_ne_none _)

/-- Why a file is not written: its directory cannot be made, or the file cannot be written in it. -/
inductive Refuses (before after : FileTree) (path : FilePath) (bytes : List Nat)
    (cause : FileFault) : Prop where
  | directory (h : before.ensureDirectory path.parent = (.error cause, after))
  | file (made : before.ensureDirectory path.parent = (.ok (), after))
    (h : after.write path bytes = .error cause)

theorem Refuses.evolves {before after : FileTree} {bytes : List Nat} {cause : FileFault}
    (h : Refuses before after path bytes cause) : Evolves before after [] := by
  cases h with
  | directory h => exact (FileTree.evolves_of_ensureDirectory h).1
  | file made => exact (FileTree.evolves_of_ensureDirectory made).1

/--
The tree has different places for different paths of the list. This can fail only where names that
are not equal count as the same, for example if letter case does not matter.
-/
def KeepsApart (tree : FileTree) (files : List OutputFile) : Prop :=
  ∀ a ∈ files, ∀ b ∈ files, (FilePath.namesOf a.path).map tree.fold
    = (FilePath.namesOf b.path).map tree.fold → a.path = b.path

/-- A tree with a directory in the place of the second of three files. -/
def blockedTree : FileTree where
  entries := [(["out"], .directory), (["out", "b.d.ts"], .directory)]

end Typescribe.Files
