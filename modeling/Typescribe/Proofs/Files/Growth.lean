import Typescribe.Proofs.Files.Writing

/-!
This module contains what else becomes of a tree when files are written below a directory: besides
the files there are new directories, all of them missing before and on the way to that directory.
-/

namespace Typescribe.FileTree

variable {before between after tree : FileTree} {written more : List (List String)}
  {place : List String} {path directory : FilePath}

/-- Nothing was at the place, and there is now a directory on the way to the given one. -/
structure IsMade (before after : FileTree) (directory : FilePath) (place : List String) : Prop where
  missing : before.entryAt? place = none
  here : after.entryAt? place = some .directory
  onTheWay : ∃ parts, parts <+: directory.parts ∧ after.placeOf ⟨directory.root, parts⟩ = .ok place

/--
What a tree can become if no files are written but those at the given places, and no directories are
made but those on the way to the given one.
-/
structure Grows (before after : FileTree) (directory : FilePath) (written : List (List String)) :
    Prop extends Evolves before after written where
  elsewhere : ∀ place, place ∉ written →
    after.entryAt? place = before.entryAt? place ∨ IsMade before after directory place

namespace Grows

theorem refl (tree : FileTree) (directory : FilePath) : Grows tree tree directory [] :=
  ⟨.refl tree, fun _ _ => .inl rfl⟩

theorem trans (h₁ : Grows before between directory written)
    (h₂ : Grows between after directory more) : Grows before after directory (written ++ more) := by
  refine ⟨h₁.toEvolves.trans h₂.toEvolves, ?_⟩
  intro place other
  rw [List.mem_append, not_or] at other
  rcases h₁.elsewhere place other.1 with same | made
  · rcases h₂.elsewhere place other.2 with same' | made'
    · exact .inl (same'.trans same)
    · exact .inr ⟨same ▸ made'.missing, made'.here, made'.onTheWay⟩
  · obtain ⟨parts, front, led⟩ := made.onTheWay
    exact .inr ⟨made.missing, h₂.directories place made.here, parts, front,
      h₂.toEvolves.placeOf led⟩

theorem mono {parts : List String} (front : parts <+: directory.parts)
    (h : Grows before after ⟨directory.root, parts⟩ written) :
    Grows before after directory written := by
  refine ⟨h.toEvolves, fun place other => (h.elsewhere place other).imp_right fun made => ?_⟩
  obtain ⟨missing, here, way, front', led⟩ := made
  exact ⟨missing, here, way, front'.trans front, led⟩

end Grows

theorem grows_put_file (h : tree.IsWritable place) (bytes : List Nat)
    (directory : FilePath) : Grows tree (tree.put place (.file bytes)) directory [place] := by
  refine ⟨evolves_put_file h bytes, fun other different => .inl ?_⟩
  rw [entryAt?_put tree (.file bytes) other (ne_nil_of_entryAt? h.1), if_neg]
  exact fun same => different (List.mem_singleton.mpr same.symm)

theorem grows_of_makeDirectory (h : tree.makeDirectory directory = .ok after) :
    Grows tree after directory [] := by
  obtain ⟨evolves, -⟩ := evolves_of_makeDirectory h
  obtain ⟨place, led, missing, rfl⟩ := exists_of_makeDirectory h
  have below : place ≠ [] := ne_nil_of_entryAt? (by rw [missing]; nofun)
  refine ⟨evolves, fun other _ => ?_⟩
  by_cases same : place = other
  · subst same
    refine .inr ⟨missing, ?_, directory.parts, List.prefix_rfl, evolves.placeOf led⟩
    rw [entryAt?_put tree .directory place below, if_pos rfl]
  · exact .inl (by rw [entryAt?_put tree .directory other below, if_neg same])

theorem grows_of_addDirectory {result : Except FileFault Unit}
    (h : tree.addDirectory directory = (result, after)) : Grows tree after directory [] := by
  unfold addDirectory at h
  split at h
  · next made =>
    cases h
    exact grows_of_makeDirectory made
  · cases h
    exact .refl _ directory

theorem grows_of_addDirectories {root : String} {names : List String}
    {result : Except FileFault Unit} (h : tree.addDirectories root names = (result, after)) :
    Grows tree after ⟨root, names.reverse⟩ [] := by
  induction names generalizing tree after result with
  | nil => exact grows_of_addDirectory h
  | cons name parents ih =>
    have front : parents.reverse <+: (name :: parents).reverse := by
      rw [List.reverse_cons]
      exact List.prefix_append _ _
    unfold addDirectories at h
    simp only at h
    split at h
    · next made =>
      cases h
      exact grows_of_makeDirectory made
    · split at h
      -- What the parents need is made on the way to them, which is on the way to the directory.
      · next added => exact ((ih added).mono front).trans (grows_of_addDirectory h)
      · exact (ih h).mono front
    · cases h
      exact .refl _ _

theorem grows_of_ensureDirectory {result : Except FileFault Unit}
    (h : tree.ensureDirectory directory = (result, after)) : Grows tree after directory [] := by
  have added := grows_of_addDirectories h
  rw [List.reverse_reverse] at added
  exact added

end Typescribe.FileTree

namespace Typescribe.Files

open FileTree (Grows)

variable {s t : Session FileTree} {directory : FilePath}

theorem grows_of_yields_ensureDirectory {reported : FilePath}
    (h : Step.Yields (ensureDirectory reported directory) s () t) :
    Grows s.state t.state directory [] :=
  FileTree.grows_of_ensureDirectory (ensureDirectory_of_yields h)

/-- The path that a file is written to. -/
def pathOf (directory : FilePath) (file : OutputFile) : FilePath :=
  directory.join (.ofString file.path)

theorem grows_of_yields_writeFile {file : OutputFile} {result : FilePath}
    (inside : (pathOf directory file).parent = directory)
    (h : Step.Yields (writeFile directory file) s result t) :
    ∃ place, Grows s.state t.state directory [place]
      ∧ IsFileAt t.state (pathOf directory file) place file.content := by
  unfold writeFile at h
  obtain ⟨_, u, prepared, afterPrepared⟩ := Step.yields_bind.mp h
  obtain ⟨_, v, written, returned⟩ := Step.yields_bind.mp afterPrepared
  obtain ⟨-, rfl⟩ := Step.yields_pure.mp returned
  rw [← pathOf, inside] at prepared
  have first := grows_of_yields_ensureDirectory prepared
  obtain ⟨place, bytes, encoded, led, writable, put⟩ := put_of_yields_writeText written
  have second := FileTree.grows_put_file writable bytes directory
  rw [put]
  exact ⟨place, first.trans second, isFileAt_put encoded writable led⟩

theorem grows_of_chain {files : List OutputFile} {results : List FilePath}
    (inside : ∀ file ∈ files, (pathOf directory file).parent = directory)
    (h : Step.Chain (writeFile directory) s files results t) :
    ∃ places, Grows s.state t.state directory places
      ∧ List.Forall₂ (fun file place => t.state.placeOf (pathOf directory file) = .ok place)
          files places := by
  induction h with
  | nil => exact ⟨[], .refl _ _, .nil⟩
  | cons head tail ih =>
    obtain ⟨place, step, -, -, led, -⟩ :=
      grows_of_yields_writeFile (inside _ List.mem_cons_self) head
    obtain ⟨places, run, others⟩ := ih fun file hf => inside file (List.mem_cons_of_mem _ hf)
    exact ⟨place :: places, step.trans run, .cons (run.toEvolves.placeOf led) others⟩

theorem grows_of_yields_writeFiles {files : List OutputFile}
    {results : List FilePath} (inside : ∀ file ∈ files, (pathOf directory file).parent = directory)
    (h : Step.Yields (writeFiles directory files) s results t) :
    ∃ places, Grows s.state t.state directory places
      ∧ List.Forall₂ (fun file place => t.state.placeOf (pathOf directory file) = .ok place)
          files places := by
  unfold writeFiles at h
  obtain ⟨_, u, prepared, written⟩ := Step.yields_bind.mp h
  have first := grows_of_yields_ensureDirectory prepared
  obtain ⟨places, run, all⟩ := grows_of_chain inside (Step.yields_mapM.mp written)
  exact ⟨places, first.trans run, all⟩

/-- A single file can have any name that leads into the directory. -/
theorem isFileAt_of_yields_writeFiles_singleton {file : OutputFile}
    {results : List FilePath} (inside : (pathOf directory file).parent = directory)
    (h : Step.Yields (writeFiles directory [file]) s results t) :
    ∃ place, IsFileAt t.state (pathOf directory file) place file.content := by
  unfold writeFiles at h
  obtain ⟨_, u, prepared, written⟩ := Step.yields_bind.mp h
  cases Step.yields_mapM.mp written with
  | cons head tail =>
    cases tail
    obtain ⟨place, -, there⟩ := grows_of_yields_writeFile inside head
    exact ⟨place, there⟩

end Typescribe.Files
