import Typescribe.Files.Writing
import Typescribe.Proofs.Files.Path
import Typescribe.Proofs.Files.Tree
import Typescribe.Proofs.Step

/-!
This module contains the runs that write files: what each one leaves in the tree, and that files with
different names are all there in the end.
-/

namespace Typescribe.Files

open FileTree (Evolves)

variable {s t : Session FileTree} {path directory : FilePath} {place : List String}

theorem eq_of_yields_requireUsable (h : Step.Yields (requireUsable path) s () t) : t = s := by
  unfold requireUsable at h
  split at h
  · exact (Step.yields_pure.mp h).2.symm
  · exact absurd h Step.not_yields_failWith

theorem ensureDirectory_of_yields {reported : FilePath}
    (h : Step.Yields (ensureDirectory reported path) s () t) :
    s.state.ensureDirectory path = (.ok (), t.state) := by
  unfold ensureDirectory at h
  obtain ⟨_, u, usable, afterUsable⟩ := Step.yields_bind.mp h
  obtain ⟨tree, v, read, afterRead⟩ := Step.yields_bind.mp afterUsable
  obtain ⟨rfl, rfl⟩ := Step.yields_state.mp read
  rw [eq_of_yields_requireUsable usable] at afterRead
  rcases made : s.state.ensureDirectory path with ⟨result, tree⟩
  rw [made] at afterRead
  obtain ⟨_, w, kept, outcome⟩ := Step.yields_bind.mp afterRead
  obtain ⟨passed, rfl⟩ := Step.yields_ofExcept.mp outcome
  rw [Step.yields_setState.mp kept]
  cases result with
  | ok => rfl
  | error => cases passed

theorem evolves_of_yields_ensureDirectory {reported : FilePath}
    (h : Step.Yields (ensureDirectory reported path) s () t) :
    Evolves s.state t.state [] ∧ t.state.LeadsToDirectory path := by
  obtain ⟨evolves, directory⟩ := FileTree.evolves_of_ensureDirectory (ensureDirectory_of_yields h)
  exact ⟨evolves, directory rfl⟩

theorem put_of_yields_writeText {content : List Text.CodePoint}
    (h : Step.Yields (writeText path content) s () t) :
    ∃ place bytes, Text.encode? content = some bytes ∧ s.state.placeOf path = .ok place
      ∧ s.state.IsWritable place ∧ t.state = s.state.put place (.file bytes) := by
  unfold writeText at h
  obtain ⟨_, u, usable, afterUsable⟩ := Step.yields_bind.mp h
  obtain ⟨tree, v, read, afterRead⟩ := Step.yields_bind.mp afterUsable
  obtain ⟨rfl, rfl⟩ := Step.yields_state.mp read
  rw [eq_of_yields_requireUsable usable] at afterRead
  simp only at afterRead
  split at afterRead
  · next after written =>
    obtain ⟨_, w, kept, encoded⟩ := Step.yields_bind.mp afterRead
    obtain rfl := Step.yields_setState.mp kept
    cases points : Text.encode? content with
    | none =>
      rw [points] at encoded
      exact absurd encoded Step.not_yields_failWith
    | some bytes =>
      rw [points] at encoded written
      obtain ⟨-, rfl⟩ := Step.yields_pure.mp encoded
      obtain ⟨place, led, writable, put⟩ := FileTree.write_eq_ok.mp written
      exact ⟨place, bytes, rfl, led, writable, put⟩
  · exact absurd afterRead Step.not_yields_fail

/-- The path leads to the given place, where there is a file with the given text. -/
def IsFileAt (tree : FileTree) (path : FilePath) (place : List String)
    (content : List Text.CodePoint) : Prop :=
  ∃ bytes, Text.encode? content = some bytes ∧ tree.placeOf path = .ok place
    ∧ tree.entryAt? place = some (.file bytes)

namespace IsFileAt

variable {content : List Text.CodePoint}

theorem evolves {before after : FileTree} {written : List (List String)}
    (h : IsFileAt before path place content) (evolves : Evolves before after written)
    (other : place ∉ written) : IsFileAt after path place content := by
  obtain ⟨bytes, encoded, led, there⟩ := h
  exact ⟨bytes, encoded, evolves.placeOf led, (evolves.files place other bytes).mpr there⟩

theorem read {tree : FileTree} (h : IsFileAt tree path place content) :
    ∃ bytes, Text.encode? content = some bytes ∧ tree.read path = .ok bytes := by
  obtain ⟨bytes, encoded, led, there⟩ := h
  have found : tree.at? path = .ok (.file bytes) :=
    bind_eq_ok.mpr ⟨place, led, by rw [there]; rfl⟩
  exact ⟨bytes, encoded, bind_eq_ok.mpr ⟨.file bytes, found, rfl⟩⟩

theorem read_string {tree : FileTree} {text : String}
    (h : IsFileAt tree path place (Text.codePoints text)) :
    ∃ bytes, tree.read path = .ok bytes ∧ Text.decodeUtf8 bytes = some text.toList := by
  obtain ⟨bytes, encoded, read⟩ := h.read
  rw [Text.encode?_codePoints] at encoded
  cases encoded
  exact ⟨_, read, Text.decodeUtf8_encodeUtf8 text.toList⟩

end IsFileAt

theorem isFileAt_put {tree : FileTree} {content : List Text.CodePoint} {bytes : List Nat}
    (encoded : Text.encode? content = some bytes) (writable : tree.IsWritable place)
    (led : tree.placeOf path = .ok place) :
    IsFileAt (tree.put place (.file bytes)) path place content := by
  refine ⟨bytes, encoded, (FileTree.evolves_put_file writable bytes).placeOf led, ?_⟩
  rw [FileTree.entryAt?_put tree _ _ (FileTree.ne_nil_of_entryAt? writable.1), if_pos rfl]

/-- The place of a file below that of the directory it is written to. -/
def placeBelow (tree : FileTree) (place : List String) (file : OutputFile) : List String :=
  place ++ (FilePath.namesOf file.path).map tree.fold

theorem placeBelow_eq_of_placeOf {tree : FileTree} {file : OutputFile}
    {target : List String} (free : tree.IsLinkFree) (down : FilePath.LeadsDown file.path)
    (there : tree.placeOf directory = .ok place)
    (led : tree.placeOf (directory.join (.ofString file.path)) = .ok target) :
    target = placeBelow tree place file := by
  rw [down.join] at led
  exact FileTree.placeOf_below free down.notUp there led

theorem placeBelow_congr {before after : FileTree} (h : after.fold = before.fold) :
    placeBelow after = placeBelow before := by
  unfold placeBelow
  rw [h]

theorem isFileAt_of_yields_writeFile {file : OutputFile} {result : FilePath}
    (free : s.state.IsLinkFree) (down : FilePath.LeadsDown file.path)
    (there : s.state.placeOf directory = .ok place)
    (h : Step.Yields (writeFile directory file) s result t) :
    Evolves s.state t.state [placeBelow s.state place file]
      ∧ IsFileAt t.state (directory.join (.ofString file.path)) (placeBelow s.state place file)
          file.content := by
  unfold writeFile at h
  obtain ⟨_, u, prepared, afterPrepared⟩ := Step.yields_bind.mp h
  obtain ⟨_, v, written, returned⟩ := Step.yields_bind.mp afterPrepared
  obtain ⟨-, rfl⟩ := Step.yields_pure.mp returned
  obtain ⟨first, -⟩ := evolves_of_yields_ensureDirectory prepared
  obtain ⟨target, bytes, encoded, led, writable, put⟩ := put_of_yields_writeText written
  have same := placeBelow_eq_of_placeOf (first.isLinkFree free) down (first.placeOf there) led
  rw [placeBelow_congr first.fold] at same
  subst same
  rw [put]
  exact ⟨first.trans (FileTree.evolves_put_file writable bytes), isFileAt_put encoded writable led⟩

theorem isFileAt_of_chain {files : List OutputFile} {results : List FilePath}
    (free : s.state.IsLinkFree) (down : ∀ file ∈ files, FilePath.LeadsDown file.path)
    (distinct : (files.map (placeBelow s.state place)).Nodup)
    (there : s.state.placeOf directory = .ok place)
    (h : Step.Chain (writeFile directory) s files results t) :
    Evolves s.state t.state (files.map (placeBelow s.state place))
      ∧ ∀ file ∈ files, IsFileAt t.state (directory.join (.ofString file.path))
          (placeBelow s.state place file) file.content := by
  induction h with
  | nil => exact ⟨.refl _, by simp⟩
  | @cons s u t file files _ _ head tail ih =>
    obtain ⟨step, written⟩ :=
      isFileAt_of_yields_writeFile free (down file List.mem_cons_self) there head
    rw [List.map_cons, List.nodup_cons] at distinct
    have targets := placeBelow_congr step.fold
    obtain ⟨run, others⟩ := ih (step.isLinkFree free) (fun f hf => down f (List.mem_cons_of_mem _ hf))
      (by rw [targets]; exact distinct.2) (step.placeOf there)
    rw [targets] at run others
    refine ⟨step.trans run, fun f hf => ?_⟩
    cases List.mem_cons.mp hf with
    | inr hf => exact others f hf
    | inl hf =>
      -- The first file stays as it is, because the later ones are written to other places.
      rw [hf]
      exact written.evolves run distinct.1

theorem isFileAt_of_yields_writeFiles {files : List OutputFile}
    {results : List FilePath} (free : s.state.IsLinkFree)
    (named : ∀ file ∈ files, FilePath.IsEntryName file.path)
    (distinct : (files.map fun file => s.state.fold file.path).Nodup)
    (h : Step.Yields (writeFiles directory files) s results t) :
    ∃ place, t.state.placeOf directory = .ok place ∧ t.state.entryAt? place = some .directory
      ∧ Evolves s.state t.state (files.map fun file => place ++ [s.state.fold file.path])
      ∧ ∀ file ∈ files, IsFileAt t.state (directory.join (.ofString file.path))
          (place ++ [s.state.fold file.path]) file.content := by
  unfold writeFiles at h
  obtain ⟨_, u, prepared, written⟩ := Step.yields_bind.mp h
  obtain ⟨first, place, there, here⟩ := evolves_of_yields_ensureDirectory prepared
  have target : ∀ file ∈ files, placeBelow u.state place file
      = place ++ [s.state.fold file.path] := by
    intro file hf
    rw [placeBelow, first.fold, FilePath.namesOf_of_isEntryName (named file hf)]
    rfl
  have targets := List.map_congr_left target
  have apart : (files.map fun file => place ++ [s.state.fold file.path]).Nodup := by
    have below : Function.Injective fun name => place ++ [name] := fun a b same => by simpa using same
    rw [List.Nodup, List.pairwise_map] at distinct ⊢
    exact distinct.imp fun different same => different (below same)
  obtain ⟨run, all⟩ := isFileAt_of_chain (first.isLinkFree free)
    (fun file hf => (named file hf).leadsDown) (targets ▸ apart) there (Step.yields_mapM.mp written)
  rw [targets] at run
  refine ⟨place, run.placeOf there, run.directories place here, first.trans run, ?_⟩
  intro file hf
  rw [← target file hf]
  exact all file hf

/--
Why files cannot be written: the file system refuses, or a path or a text cannot be handed to it.
-/
inductive IsWriteFault : Fault → Prop where
  | refused (path : String) (cause : FileFault) : IsWriteFault (.output path cause)
  | unusable (cause : Cause) : IsWriteFault (.foreign cause)

theorem failsWith_requireUsable {σ : Type} (path : FilePath) :
    Step.FailsWith IsWriteFault (requireUsable path : Step σ Unit) := by
  unfold requireUsable
  split
  · exact .pure ()
  · exact .fail (.unusable _)

theorem failsWith_ensureDirectory (reported path : FilePath) :
    Step.FailsWith IsWriteFault (ensureDirectory reported path) := by
  unfold ensureDirectory
  apply (failsWith_requireUsable path).bind
  intro _
  refine Step.FailsWith.bind .state fun tree => ?_
  rcases tree.ensureDirectory path with ⟨result, after⟩
  refine Step.FailsWith.bind (.setState after) fun _ => ?_
  apply Step.FailsWith.ofExcept
  intro fault failed
  cases result with
  | error cause =>
    cases failed
    exact .refused _ cause
  | ok made => cases failed

theorem failsWith_writeText (path : FilePath) (content : List Text.CodePoint) :
    Step.FailsWith IsWriteFault (writeText path content) := by
  unfold writeText
  apply (failsWith_requireUsable path).bind
  intro _
  refine Step.FailsWith.bind .state fun tree => ?_
  simp only
  split
  · refine Step.FailsWith.bind (.setState _) fun _ => ?_
    split
    · exact .fail (.unusable _)
    · exact .pure ()
  · exact .fail (.refused _ _)

theorem failsWith_writeFiles (directory : FilePath) (files : List OutputFile) :
    Step.FailsWith IsWriteFault (writeFiles directory files) := by
  unfold writeFiles
  apply (failsWith_ensureDirectory directory directory).bind
  intro _
  apply Step.FailsWith.mapM
  intro file
  unfold writeFile
  apply (failsWith_ensureDirectory _ _).bind
  intro _
  exact (failsWith_writeText _ _).bind fun _ => .pure _

end Typescribe.Files
