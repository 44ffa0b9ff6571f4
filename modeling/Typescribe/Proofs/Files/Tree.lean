import Typescribe.Proofs.Files.Way
import Typescribe.Proofs.Step

/-!
This module contains what becomes of a tree when directories are made and files are written in it:
directories stay, so that paths keep leading to the same places, and other files stay the same.
-/

namespace Typescribe.FileTree

variable {before between after tree : FileTree} {written more : List (List String)}
  {place : List String} {path : FilePath}

/--
What a tree can become if no files are written but those at the given places: directories stay, and
there are the same links, and the same files elsewhere.
-/
structure Evolves (before after : FileTree) (written : List (List String)) : Prop where
  fold : after.fold = before.fold
  workingDirectory : after.workingDirectory = before.workingDirectory
  directories : ∀ place, before.entryAt? place = some .directory →
    after.entryAt? place = some .directory
  links : ∀ place target, after.entryAt? place = some (.link target) ↔
    before.entryAt? place = some (.link target)
  files : ∀ place, place ∉ written → ∀ bytes, after.entryAt? place = some (.file bytes) ↔
    before.entryAt? place = some (.file bytes)

namespace Evolves

theorem refl (tree : FileTree) : Evolves tree tree [] :=
  ⟨rfl, rfl, fun _ h => h, fun _ _ => Iff.rfl, fun _ _ _ => Iff.rfl⟩

theorem trans (h₁ : Evolves before between written) (h₂ : Evolves between after more) :
    Evolves before after (written ++ more) := by
  constructor
  · rw [h₂.fold, h₁.fold]
  · rw [h₂.workingDirectory, h₁.workingDirectory]
  · intro place directory
    exact h₂.directories place (h₁.directories place directory)
  · intro place target
    rw [h₂.links, h₁.links]
  · intro place other bytes
    rw [List.mem_append, not_or] at other
    rw [h₂.files place other.2, h₁.files place other.1]

theorem leads (h : Evolves before after written) {followsLast : Bool} {links : Nat}
    {start names target : List String} (led : before.Leads followsLast links start names target) :
    after.Leads followsLast links start names target := by
  induction led with
  | here links place => exact .here links place
  | up inside _ ih => exact .up (h.directories _ inside) ih
  | down inside notUp short noLink _ ih =>
    rw [← h.fold] at noLink ih
    exact .down (h.directories _ inside) notUp short
      (fun link found => noLink link ((h.links _ _).mp found)) ih
  | stop inside notUp short found stays =>
    rw [← h.fold] at found ⊢
    exact .stop (h.directories _ inside) notUp short ((h.links _ _).mpr found) stays
  | follow inside notUp short found follows _ ih =>
    rw [← h.fold] at found
    exact .follow (h.directories _ inside) notUp short ((h.links _ _).mpr found) follows ih

theorem placeOf (h : Evolves before after written) (led : before.placeOf path = .ok place) :
    after.placeOf path = .ok place := by
  obtain ⟨short, way⟩ := resolve_eq_ok.mp led
  rw [← h.workingDirectory] at way
  exact resolve_eq_ok.mpr ⟨short, h.leads way⟩

theorem isLinkFree (h : Evolves before after written) (free : before.IsLinkFree) :
    after.IsLinkFree :=
  fun place link found => free place link ((h.links place link).mp found)

end Evolves

theorem placeOf_of_entryPlaceOf (led : tree.entryPlaceOf path = .ok place)
    (noLink : ∀ link, tree.entryAt? place ≠ some (.link link)) : tree.placeOf path = .ok place := by
  obtain ⟨short, way⟩ := resolve_eq_ok.mp led
  exact resolve_eq_ok.mpr ⟨short, way.throughLast noLink⟩

theorem placeOf_below {root : String} {parts names target : List String} (free : tree.IsLinkFree)
    (notUp : ".." ∉ names) (there : tree.placeOf ⟨root, parts⟩ = .ok place)
    (led : tree.placeOf ⟨root, parts ++ names⟩ = .ok target) :
    target = place ++ names.map tree.fold := by
  obtain ⟨-, first⟩ := resolve_eq_ok.mp there
  obtain ⟨-, whole⟩ := resolve_eq_ok.mp led
  exact (first.rest free whole).eq_append_map free notUp

theorem ne_nil_of_entryAt? (h : tree.entryAt? place ≠ some .directory) : place ≠ [] := by
  rintro rfl
  exact h rfl

/-- There is a file at the place, or nothing. -/
def IsWritable (tree : FileTree) (place : List String) : Prop :=
  tree.entryAt? place ≠ some .directory ∧ ∀ link, tree.entryAt? place ≠ some (.link link)

theorem evolves_put_file (h : tree.IsWritable place) (bytes : List Nat) :
    Evolves tree (tree.put place (.file bytes)) [place] := by
  have entry := fun other => entryAt?_put tree (.file bytes) other (ne_nil_of_entryAt? h.1)
  constructor
  · rfl
  · rfl
  · intro other directory
    rw [entry, if_neg, directory]
    rintro rfl
    exact h.1 directory
  · intro other target
    rw [entry]
    split
    · next same => exact iff_of_false nofun (same ▸ h.2 target)
    · rfl
  · intro other different bytes'
    rw [entry, if_neg]
    exact fun same => different (List.mem_singleton.mpr same.symm)

theorem evolves_put_directory (h : tree.entryAt? place = none) :
    Evolves tree (tree.put place .directory) [] := by
  have below : place ≠ [] := ne_nil_of_entryAt? (by rw [h]; nofun)
  have entry := fun other => entryAt?_put tree .directory other below
  constructor
  · rfl
  · rfl
  · intro other directory
    rw [entry]
    split
    · rfl
    · exact directory
  · intro other target
    rw [entry]
    split
    · next same =>
      rw [← same, h]
      exact iff_of_false nofun nofun
    · rfl
  · intro other _ bytes
    rw [entry]
    split
    · next same =>
      -- Nothing was at the place before, so there was no file in the way.
      rw [← same, h]
      exact iff_of_false nofun nofun
    · rfl

theorem write_eq_ok {bytes : List Nat} :
    tree.write path bytes = .ok after
      ↔ ∃ place, tree.placeOf path = .ok place ∧ tree.IsWritable place
          ∧ after = tree.put place (.file bytes) := by
  unfold write
  rw [bind_eq_ok]
  apply exists_congr
  intro place
  apply and_congr_right
  intro _
  split
  · next directory => exact iff_of_false nofun fun h => h.1.1 directory
  · next link found => exact iff_of_false nofun fun h => h.1.2 link found
  · next notDirectory notLink =>
    constructor
    · intro h
      cases h
      exact ⟨⟨notDirectory, notLink⟩, rfl⟩
    · rintro ⟨-, rfl⟩
      rfl

theorem makeDirectory_eq_ok :
    tree.makeDirectory path = .ok after
      ↔ ∃ place, tree.entryPlaceOf path = .ok place ∧ tree.entryAt? place = none
          ∧ after = tree.put place .directory := by
  unfold makeDirectory
  rw [bind_eq_ok]
  apply exists_congr
  intro place
  apply and_congr_right
  intro _
  split
  · next entry found => exact iff_of_false nofun fun h => absurd (found.symm.trans h.1) nofun
  · next missing =>
    constructor
    · intro h
      cases h
      exact ⟨missing, rfl⟩
    · rintro ⟨-, rfl⟩
      rfl

theorem exists_of_makeDirectory (h : tree.makeDirectory path = .ok after) :
    ∃ place, tree.placeOf path = .ok place ∧ tree.entryAt? place = none
      ∧ after = tree.put place .directory := by
  obtain ⟨place, led, missing, put⟩ := makeDirectory_eq_ok.mp h
  exact ⟨place, placeOf_of_entryPlaceOf led (by rw [missing]; nofun), missing, put⟩

def LeadsToDirectory (tree : FileTree) (path : FilePath) : Prop :=
  ∃ place, tree.placeOf path = .ok place ∧ tree.entryAt? place = some .directory

theorem leadsToDirectory_of_unlessDirectory {fault : FileFault}
    (h : tree.unlessDirectory path fault = .ok ()) : tree.LeadsToDirectory path := by
  unfold unlessDirectory at h
  split at h
  · next directory =>
    unfold isDirectory at directory
    rw [Bool.and_eq_true] at directory
    split at directory
    · next found =>
      unfold at? at found
      obtain ⟨place, led, found⟩ := bind_eq_ok.mp found
      split at found
      · next entry here =>
        cases found
        exact ⟨place, led, here⟩
      · cases found
    · cases directory.2
  · cases h

theorem evolves_of_makeDirectory (h : tree.makeDirectory path = .ok after) :
    Evolves tree after [] ∧ after.LeadsToDirectory path := by
  obtain ⟨place, led, missing, rfl⟩ := exists_of_makeDirectory h
  have evolves := evolves_put_directory missing
  have below : place ≠ [] := ne_nil_of_entryAt? (by rw [missing]; nofun)
  refine ⟨evolves, place, evolves.placeOf led, ?_⟩
  rw [entryAt?_put tree .directory place below, if_pos rfl]

theorem evolves_of_addDirectory {result : Except FileFault Unit}
    (h : tree.addDirectory path = (result, after)) :
    Evolves tree after [] ∧ (result = .ok () → after.LeadsToDirectory path) := by
  unfold addDirectory at h
  split at h
  · next made =>
    cases h
    obtain ⟨evolves, directory⟩ := evolves_of_makeDirectory made
    exact ⟨evolves, fun _ => directory⟩
  · cases h
    exact ⟨.refl _, leadsToDirectory_of_unlessDirectory⟩

theorem evolves_of_addDirectories {root : String} {names : List String}
    {result : Except FileFault Unit} (h : tree.addDirectories root names = (result, after)) :
    Evolves tree after [] ∧ (result = .ok () → after.LeadsToDirectory ⟨root, names.reverse⟩) := by
  induction names generalizing tree after result with
  | nil => exact evolves_of_addDirectory h
  | cons name parents ih =>
    unfold addDirectories at h
    simp only at h
    split at h
    · next made =>
      cases h
      obtain ⟨evolves, directory⟩ := evolves_of_makeDirectory made
      exact ⟨evolves, fun _ => directory⟩
    · split at h
      · next parent added =>
        -- The parents came first; what they are does not matter, only that no file was lost.
        obtain ⟨first, -⟩ := ih added
        obtain ⟨second, directory⟩ := evolves_of_addDirectory h
        exact ⟨first.trans second, directory⟩
      · next failing =>
        refine ⟨(ih h).1, ?_⟩
        rintro rfl
        exact absurd h (failing _)
    · cases h
      exact ⟨.refl _, leadsToDirectory_of_unlessDirectory⟩

theorem evolves_of_ensureDirectory {result : Except FileFault Unit}
    (h : tree.ensureDirectory path = (result, after)) :
    Evolves tree after [] ∧ (result = .ok () → after.LeadsToDirectory path) := by
  have added := evolves_of_addDirectories h
  rw [List.reverse_reverse] at added
  exact added

end Typescribe.FileTree
