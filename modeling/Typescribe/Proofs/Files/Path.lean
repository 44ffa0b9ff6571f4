import Typescribe.Files.Path
import Typescribe.Proofs.Text.Split

/-!
This module contains the paths of plain names: such a name is one part, and joined to a directory it
leads to an entry of that directory; several of them with slashes between them lead to a place below
it. The name of a path that is read from a text leads from the parent back to the path.
-/

namespace Typescribe.FilePath

/-- A name that stands for an entry of a directory, and not for a path or the directory itself. -/
structure IsEntryName (name : String) : Prop where
  single : '/' ∉ name.toList
  named : name ≠ ""
  notHere : name ≠ "."
  notUp : name ≠ ".."

variable {name : String}

theorem rootOf_eq_empty {cs : List Char} (h : '/' ∉ cs) : rootOf cs = "" := by
  unfold rootOf
  split
  · simp at h
  · simp at h
  · simp at h
  · rfl

theorem ofString_of_single (single : '/' ∉ name.toList) (named : name ≠ "")
    (notHere : name ≠ ".") : ofString name = ⟨"", [name]⟩ := by
  unfold ofString partsOf
  rw [rootOf_eq_empty single, Text.splitAt_of_not_mem single, List.map_singleton,
    String.ofList_toList]
  simp [named, notHere]

theorem ofString_of_isEntryName (h : IsEntryName name) : ofString name = ⟨"", [name]⟩ :=
  ofString_of_single h.single h.named h.notHere

theorem join_ofString (h : IsEntryName name) (directory : FilePath) :
    directory.join (.ofString name) = ⟨directory.root, directory.parts ++ [name]⟩ := by
  rw [ofString_of_isEntryName h]
  rfl

def namesOf (text : String) : List String :=
  (Text.splitAt '/' text.toList).map String.ofList

/-- Names of entries with slashes between them: the text leads from a directory to a place below. -/
def LeadsDown (text : String) : Prop :=
  ∀ name ∈ namesOf text, IsEntryName name

variable {text : String}

theorem namesOf_of_isEntryName (h : IsEntryName name) : namesOf name = [name] := by
  rw [namesOf, Text.splitAt_of_not_mem h.single, List.map_singleton, String.ofList_toList]

theorem IsEntryName.leadsDown (h : IsEntryName name) : LeadsDown name := by
  intro other listed
  rw [namesOf_of_isEntryName h, List.mem_singleton] at listed
  exact listed ▸ h

namespace LeadsDown

theorem notUp (h : LeadsDown text) : ".." ∉ namesOf text :=
  fun listed => (h ".." listed).notUp rfl

theorem rootOf (h : LeadsDown text) : FilePath.rootOf text.toList = "" := by
  rcases start : text.toList with _ | ⟨c, rest⟩
  · rfl
  · by_cases slash : c = '/'
    · -- Before a slash at the start there is a name without characters.
      have empty : "" ∈ namesOf text := by
        rw [namesOf, start, slash, Text.splitAt, if_pos rfl]
        exact List.mem_cons_self
      exact absurd rfl (h "" empty).named
    · unfold FilePath.rootOf
      split <;> simp_all

theorem ofString (h : LeadsDown text) : FilePath.ofString text = ⟨"", namesOf text⟩ := by
  have all : (namesOf text).filter (fun part => part ≠ "" && part ≠ ".") = namesOf text := by
    rw [List.filter_eq_self]
    intro name listed
    simp [(h name listed).named, (h name listed).notHere]
  rw [FilePath.ofString, h.rootOf, partsOf, ← namesOf, all]

theorem join (h : LeadsDown text) (directory : FilePath) :
    directory.join (.ofString text) = ⟨directory.root, directory.parts ++ namesOf text⟩ := by
  rw [h.ofString]
  rfl

end LeadsDown

theorem isUsable_parent {path : FilePath} (h : path.isUsable) : path.parent.isUsable := by
  unfold isUsable parent at *
  rw [List.all_eq_true] at *
  exact fun part listed => h part (List.dropLast_subset _ listed)

/-- The path is the reading of some text. -/
def IsRead (path : FilePath) : Prop :=
  ∃ text, path = .ofString text

theorem of_mem_partsOf {cs : List Char} {part : String} (h : part ∈ partsOf cs) :
    '/' ∉ part.toList ∧ part ≠ "" ∧ part ≠ "." := by
  obtain ⟨listed, kept⟩ := List.mem_filter.mp h
  obtain ⟨piece, between, rfl⟩ := List.mem_map.mp listed
  rw [String.toList_ofList]
  exact ⟨Text.not_mem_of_mem_splitAt between, by simpa using kept⟩

theorem join_parent_name {path : FilePath} (h : path.IsRead) :
    path.parent.join (.ofString path.name) = path := by
  obtain ⟨text, read⟩ := h
  have plain : ∀ part ∈ path.parts, '/' ∉ part.toList ∧ part ≠ "" ∧ part ≠ "." := by
    rw [read]
    exact fun part => of_mem_partsOf
  obtain ⟨root, parts⟩ := path
  rcases List.eq_nil_or_concat parts with rfl | ⟨front, last, rfl⟩
  · rfl
  · obtain ⟨single, named, notHere⟩ := plain last (by simp)
    simp only [name, parent, List.concat_eq_append, List.getLast?_concat, Option.getD_some,
      List.dropLast_concat, ofString_of_single single named notHere]
    rfl

end Typescribe.FilePath
