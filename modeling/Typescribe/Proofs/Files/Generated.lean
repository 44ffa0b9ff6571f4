import Typescribe.Proofs.Declaration.Generation
import Typescribe.Proofs.Files.Writing

/-!
This module contains the paths of generated files, and that all files of a split output can be read
back after they were written, on trees that distinguish letter case and on trees that do not.
-/

namespace Typescribe.Declaration

variable {σ : Type} {config : Config} {schema : Schema} {choices : ChoiceSource σ} {s t : Session σ}

/-- A name of letters, digits, underscores and points only. -/
def IsPortable (name : String) : Prop :=
  ∀ c ∈ name.toList, Naming.isSafe c ∨ c = '.'

theorem foldCase_append (a b : String) : foldCase (a ++ b) = foldCase a ++ foldCase b := by
  unfold foldCase
  rw [String.toList_append, List.map_append, String.ofList_append]

theorem isPortable_declarationFile {name : String} (h : IsPlainName name) :
    IsPortable (name ++ declarationSuffix) := by
  have suffix : ∀ c ∈ declarationSuffix.toList, Naming.isSafe c ∨ c = '.' :=
    Text.forall_mem_of_all rfl
  intro c hc
  rw [String.toList_append, List.mem_append] at hc
  cases hc with
  | inl hc => exact .inl (h c hc)
  | inr hc => exact suffix c hc

theorem isEntryName_declarationFile {name : String} (h : IsPlainName name) :
    FilePath.IsEntryName (name ++ declarationSuffix) := by
  have longer : ∀ other ∈ ["", ".", ".."], name ++ declarationSuffix ≠ other := by
    intro other ho same
    have lengths : ∀ other ∈ ["", ".", ".."], other.toList.length < 5 := by decide
    have suffix : declarationSuffix.toList.length = 5 := rfl
    have short := lengths other ho
    rw [← same, String.toList_append, List.length_append, suffix] at short
    omega
  constructor
  · intro slash
    rcases isPortable_declarationFile h _ slash with safe | point
    · exact absurd safe (by decide)
    · exact absurd point (by decide)
  · exact longer _ (by simp)
  · exact longer _ (by simp)
  · exact longer _ (by simp)

def stems (schema : Schema) : List String :=
  (collectionsOf schema).map (fun c => Naming.className c.collection) ++ ["index"]

theorem isPlainName_of_mem_stems : ∀ stem ∈ stems schema, IsPlainName stem := by
  intro stem hs
  rw [stems, List.mem_append, List.mem_singleton] at hs
  rcases hs with hs | rfl
  · obtain ⟨c, -, rfl⟩ := List.mem_map.mp hs
    exact isPlainName_className c.collection
  · exact Text.forall_mem_of_all rfl

theorem map_path_splitFiles {rendered : List Rendered}
    (same : rendered.map (·.collection) = collectionsOf schema) :
    (splitFiles config schema (rendered.map (·.interface config))).map (·.path)
      = (stems schema).map (· ++ declarationSuffix) := by
  rw [splitFiles, stems, ← same]
  simp only [List.map_append, List.map_map, List.map_singleton]
  rfl

theorem nodup_stems (keyed : IsKeyed schema) (passed : checkCollisions .split schema = .ok ()) :
    ((stems schema).map foldCase).Nodup := by
  have names := nodup_declared keyed passed
  -- The index is the last of the files, but its name is checked before the names of interfaces.
  have order : (stems schema).Perm (["index"]
      ++ (collectionsOf schema).map fun c => Naming.className c.collection) :=
    List.perm_append_comm
  have part : (["index"] ++ (collectionsOf schema).map fun c => Naming.className c.collection).Sublist
      (reservedNames .split ++ (collectionsOf schema).map fun c => Naming.className c.collection) :=
    List.Sublist.append_right (List.sublist_append_right
      ["Collections", "CollectionName", "ItemIn"] ["index"]) _
  rw [(order.map foldCase).nodup_iff]
  exact names.sublist (part.map foldCase)

theorem nodup_foldCase_paths (keyed : IsKeyed schema)
    (passed : checkCollisions .split schema = .ok ()) :
    (((stems schema).map (· ++ declarationSuffix)).map foldCase).Nodup := by
  have fold : foldCase ∘ (· ++ declarationSuffix) = (· ++ declarationSuffix) ∘ foldCase := by
    funext name
    exact foldCase_append name declarationSuffix
  rw [List.map_map, fold, ← List.map_map]
  apply (nodup_stems keyed passed).map
  intro a b same
  exact (String.append_left_inj declarationSuffix).mp same

/--
On portable names a tree folds letter case at most: it takes names for the same only if they are the
same, or if they differ in letter case only.
-/
def FoldsCaseAtMost (fold : String → String) : Prop :=
  ∀ a b, IsPortable a → IsPortable b → fold a = fold b → foldCase a = foldCase b

theorem foldsCaseAtMost_id : FoldsCaseAtMost id :=
  fun _ _ _ _ same => congrArg foldCase same

theorem foldsCaseAtMost_foldCase : FoldsCaseAtMost foldCase :=
  fun _ _ _ _ same => same

theorem nodup_fold_paths {fold : String → String} {files : List GeneratedFile}
    (folds : FoldsCaseAtMost fold) (portable : ∀ file ∈ files, IsPortable file.path)
    (distinct : ((files.map (·.path)).map foldCase).Nodup) :
    ((files.map Files.OutputFile.ofGenerated).map fun file => fold file.path).Nodup := by
  rw [List.map_map, List.Nodup, List.pairwise_map] at distinct
  rw [List.map_map, List.Nodup, List.pairwise_map]
  apply distinct.imp_of_mem
  intro a b ha hb different same
  exact different (folds _ _ (portable a ha) (portable b hb) same)

theorem nodup_interface_names {layout : Layout} {rendered : List Rendered} (keyed : IsKeyed schema)
    (passed : checkCollisions layout schema = .ok ())
    (same : rendered.map (·.collection) = collectionsOf schema) :
    ((["Collections", "CollectionName", "ItemIn"]
      ++ rendered.map fun r => (r.interface config).name).map foldCase).Nodup := by
  have names : (rendered.map fun r => (r.interface config).name)
      = (collectionsOf schema).map fun c => Naming.className c.collection := by
    rw [← same, List.map_map]
    rfl
  have reserved : ["Collections", "CollectionName", "ItemIn"].Sublist (reservedNames layout) := by
    cases layout with
    | combined => exact List.Sublist.refl _
    | split => exact List.sublist_append_left _ ["index"]
  rw [names]
  exact (nodup_declared keyed passed).sublist ((reserved.append_right _).map foldCase)

theorem paths_of_generate {result : Generation} (split : config.layout = .split)
    (h : Step.Yields (generate config schema choices) s result t) :
    result.files.map (·.path) = (stems schema).map (· ++ declarationSuffix) := by
  obtain ⟨-, rendered, u, -, -, same, rfl⟩ := generationOf_of_generate h
  simp only [generationOf, outputFiles, split]
  exact map_path_splitFiles same

theorem isEntryName_of_generate {result : Generation} (split : config.layout = .split)
    (h : Step.Yields (generate config schema choices) s result t) :
    ∀ file ∈ result.files, IsPortable file.path ∧ FilePath.IsEntryName file.path := by
  intro file hf
  have listed := List.mem_map_of_mem (f := fun file : GeneratedFile => file.path) hf
  rw [paths_of_generate split h] at listed
  obtain ⟨stem, hs, path⟩ := List.mem_map.mp listed
  have plain := isPlainName_of_mem_stems stem hs
  rw [← path]
  exact ⟨isPortable_declarationFile plain, isEntryName_declarationFile plain⟩

theorem read_of_writeFiles_of_generate {result : Generation} (keyed : IsKeyed schema)
    (h : Step.Yields (generate config schema choices) s result t) :
    ∃ rendered u, RenderedInTurn config schema choices s rendered u
      ∧ rendered.map (·.collection) = collectionsOf schema
      ∧ result.files = outputFiles config schema (rendered.map (·.interface config))
      ∧ ((["Collections", "CollectionName", "ItemIn"]
          ++ rendered.map fun r => (r.interface config).name).map foldCase).Nodup
      ∧ (config.layout = .split →
          ((result.files.map (·.path)).map foldCase).Nodup
          ∧ "index.d.ts" ∈ result.files.map (·.path)
          ∧ (∀ file ∈ result.files, IsPortable file.path
              ∧ FilePath.ofString file.path = ⟨"", [file.path]⟩ ∧ file.path ≠ "..")
          ∧ ∀ (directory : FilePath) (before after : Session FileTree) (paths : List FilePath),
              before.state.IsLinkFree → FoldsCaseAtMost before.state.fold →
              Step.Yields (Files.writeFiles directory (result.files.map .ofGenerated)) before paths
                after →
              (∀ file ∈ result.files, ∃ bytes,
                after.state.read (directory.join (.ofString file.path)) = .ok bytes
                ∧ Text.decodeUtf8 bytes = some file.content.toList)
              ∧ ∃ place, after.state.placeOf directory = .ok place
                ∧ after.state.entryAt? place = some .directory
                ∧ ∀ other, (∀ file ∈ result.files,
                    other ≠ place ++ [before.state.fold file.path]) →
                  ∀ bytes, after.state.entryAt? other = some (.file bytes)
                    ↔ before.state.entryAt? other = some (.file bytes)) := by
  obtain ⟨passed, rendered, u, turns, -, same, files⟩ := renderedInTurn_of_generate h
  refine ⟨rendered, u, turns, same, files, nodup_interface_names keyed passed same, ?_⟩
  intro split
  rw [outputFiles, split] at files
  rw [split] at passed
  have paths : result.files.map (·.path) = (stems schema).map (· ++ declarationSuffix) := by
    rw [files]
    exact map_path_splitFiles same
  have distinct : ((result.files.map (·.path)).map foldCase).Nodup := by
    rw [paths]
    exact nodup_foldCase_paths keyed passed
  have named : ∀ file ∈ result.files, IsPortable file.path ∧ FilePath.IsEntryName file.path := by
    intro file hf
    have listed : file.path ∈ (stems schema).map (· ++ declarationSuffix) :=
      paths ▸ List.mem_map_of_mem hf
    obtain ⟨stem, hs, path⟩ := List.mem_map.mp listed
    have plain := isPlainName_of_mem_stems stem hs
    rw [← path]
    exact ⟨isPortable_declarationFile plain, isEntryName_declarationFile plain⟩
  refine ⟨distinct, ?_, ?_, ?_⟩
  · rw [paths]
    exact List.mem_map.mpr ⟨"index", by simp [stems], rfl⟩
  · intro file hf
    obtain ⟨portable, entry⟩ := named file hf
    exact ⟨portable, FilePath.ofString_of_isEntryName entry, entry.notUp⟩
  · intro directory before after results free folds written
    have apart := nodup_fold_paths folds (fun file hf => (named file hf).1) distinct
    obtain ⟨place, there, here, evolves, all⟩ := Files.isFileAt_of_yields_writeFiles free
      (List.forall_mem_map.mpr fun file hf => (named file hf).2) apart written
    refine ⟨?_, place, there, here, ?_⟩
    · exact fun file hf => (List.forall_mem_map.mp all file hf).read_string
    · intro other elsewhere
      apply evolves.files other
      rw [List.map_map]
      intro target
      obtain ⟨file, hf, rfl⟩ := List.mem_map.mp target
      exact elsewhere file hf rfl

def postFiles : List GeneratedFile := [
  ⟨"Post.d.ts", "export interface Post \x7b\n\x7d\n"⟩,
  ⟨"index.d.ts", "import type \x7b Post \x7d from \"./Post\";\n\n"
    ++ "export type Collections = \x7b\n  posts: Post[];\n\x7d\n"⟩]

/-- A tree that does not distinguish letter case, with a file of the name of a generated one. -/
def foldingTree : FileTree where
  entries := [(["readme"], .file [35]), (["out"], .directory), (["out", "post.d.ts"], .file [33])]
  fold := foldCase

theorem isLinkFree_foldingTree : foldingTree.IsLinkFree :=
  FileTree.isLinkFree_of_entries (by decide)

theorem read_of_writeFiles_foldingTree :
    ∃ t paths after,
      Step.Yields (generate { layout := .split } ⟨[("posts", ⟨"posts", false, []⟩)], []⟩ .unimplemented)
        (⟨(), []⟩ : Session Unit) ⟨postFiles, []⟩ t
      ∧ Step.Yields (Files.writeFiles ⟨"", ["Out"]⟩ (postFiles.map .ofGenerated))
        ⟨foldingTree, []⟩ paths after
      ∧ ∀ file ∈ postFiles, ∃ bytes,
          after.state.read (FilePath.join ⟨"", ["Out"]⟩ (.ofString file.path)) = .ok bytes
          ∧ Text.decodeUtf8 bytes = some file.content.toList := by
  have passed : checkCollisions .split ⟨[("posts", ⟨"posts", false, []⟩)], []⟩ = .ok () :=
    checkCollisions_eq_ok.mpr (collisions_eq_nil_iff.mpr (by decide))
  obtain ⟨t, run⟩ : ∃ t, Step.Yields
      (generate { layout := .split } ⟨[("posts", ⟨"posts", false, []⟩)], []⟩ .unimplemented)
      (⟨(), []⟩ : Session Unit) ⟨postFiles, []⟩ t :=
    ⟨_, Step.Yields.bind (Step.yields_ofExcept.mpr ⟨passed, rfl⟩) rfl⟩
  obtain ⟨paths, after, written⟩ : ∃ paths after,
      Step.Yields (Files.writeFiles ⟨"", ["Out"]⟩ (postFiles.map .ofGenerated))
        ⟨foldingTree, []⟩ paths after :=
    ⟨_, _, rfl⟩
  have keyed : IsKeyed ⟨[("posts", ⟨"posts", false, []⟩)], []⟩ := by
    unfold IsKeyed
    decide
  obtain ⟨-, -, -, -, -, -, split⟩ := read_of_writeFiles_of_generate keyed run
  obtain ⟨-, -, -, writing⟩ := split rfl
  have folds : FoldsCaseAtMost foldingTree.fold := foldsCaseAtMost_foldCase
  exact ⟨t, paths, after, run, written, (writing _ _ _ _ isLinkFree_foldingTree folds written).1⟩

end Typescribe.Declaration
