import Typescribe.Proofs.Text.Blank
import Typescribe.Proofs.Text.Split
import Typescribe.Snapshot.Special

/-!
This module contains the two ways to write special flags. A text with commas gives the same flags
as a list of them, whatever white space is around them and whatever blank parts are between them.
-/

namespace Typescribe.Snapshot

open Text

variable {text : String} {flags : List String} {segments : List (List Char)}

/-- A flag that can stand between commas: it is trimmed, and has no comma itself. -/
structure IsFlag (flag : String) : Prop where
  trimmed : IsTrimmed flag.toList
  noComma : ',' ∉ flag.toList

/-- Segments that spell flags: one for each flag, with white space around it, and blank ones. -/
inductive Spells : List (List Char) → List String → Prop where
  | nil : Spells [] []
  | blank {segment : List Char} {segments : List (List Char)} {flags : List String}
      (padding : IsPadding segment) (rest : Spells segments flags) :
      Spells (segment :: segments) flags
  | flag {front back : List Char} {segments : List (List Char)} {flags : List String}
      {flag : String} (before : IsPadding front) (after : IsPadding back)
      (rest : Spells segments flags) :
      Spells ((front ++ flag.toList ++ back) :: segments) (flag :: flags)

/-- A text that is put together from the segments of flags, with commas between them. -/
def IsSpelling (text : String) (flags : List String) : Prop :=
  ∃ segments, text.toList = List.intercalate [','] segments ∧ Spells segments flags

/-- The flags that are found in segments. -/
def flagsIn (segments : List (List Char)) : List String :=
  ((segments.map trim).filter (!·.isEmpty)).map String.ofList

theorem splitFlags_eq (text : String) : splitFlags text = flagsIn (splitAt ',' text.toList) := rfl

theorem flagsIn_cons_blank {segment : List Char} (h : trim segment = []) :
    flagsIn (segment :: segments) = flagsIn segments := by
  simp [flagsIn, h]

theorem flagsIn_cons_flag {segment : List Char} (h : trim segment ≠ []) :
    flagsIn (segment :: segments) = String.ofList (trim segment) :: flagsIn segments := by
  simp [flagsIn, h]

theorem notMem_comma_of_isPadding {cs : List Char} (h : IsPadding cs) : ',' ∉ cs := by
  intro comma
  have blank := h ',' comma
  revert blank
  decide

namespace Spells

theorem flagsIn_eq (h : Spells segments flags) (plain : ∀ flag ∈ flags, IsFlag flag) :
    flagsIn segments = flags := by
  induction h with
  | nil => rfl
  | blank padding rest ih => rw [flagsIn_cons_blank padding.trim_eq_nil, ih plain]
  | @flag front back _ _ flag before after rest ih =>
    obtain ⟨first, others⟩ := List.forall_mem_cons.mp plain
    have trimmed : trim (front ++ flag.toList ++ back) = flag.toList := by
      rw [trim_append_padding after, trim_padding_append before, first.trimmed.trim_eq]
    rw [flagsIn_cons_flag (by rw [trimmed]; exact first.trimmed.nonempty), trimmed, ih others,
      String.ofList_toList]

theorem notMem_comma (h : Spells segments flags) (plain : ∀ flag ∈ flags, IsFlag flag) :
    ∀ segment ∈ segments, ',' ∉ segment := by
  induction h with
  | nil => exact List.forall_mem_nil _
  | blank padding rest ih =>
    exact List.forall_mem_cons.mpr ⟨notMem_comma_of_isPadding padding, ih plain⟩
  | flag before after rest ih =>
    obtain ⟨first, others⟩ := List.forall_mem_cons.mp plain
    refine List.forall_mem_cons.mpr ⟨?_, ih others⟩
    simp [notMem_comma_of_isPadding before, notMem_comma_of_isPadding after, first.noComma]

end Spells

theorem spells_flagsIn (segments : List (List Char)) : Spells segments (flagsIn segments) := by
  induction segments with
  | nil => exact .nil
  | cons segment segments ih =>
    obtain ⟨front, back, before, after, whole⟩ := exists_eq_append_trim segment
    by_cases empty : trim segment = []
    · rw [flagsIn_cons_blank empty]
      refine .blank ?_ ih
      rw [whole, empty, List.append_nil]
      exact List.forall_mem_append.mpr ⟨before, after⟩
    · have spelled : Spells ((front ++ (String.ofList (trim segment)).toList ++ back) :: segments)
          (String.ofList (trim segment) :: flagsIn segments) := .flag before after ih
      rwa [String.toList_ofList, ← whole, ← flagsIn_cons_flag empty] at spelled

theorem isFlag_of_mem_splitFlags {flag : String} (h : flag ∈ splitFlags text) : IsFlag flag := by
  obtain ⟨trimmed, kept, rfl⟩ := List.mem_map.mp h
  obtain ⟨found, nonempty⟩ := List.mem_filter.mp kept
  obtain ⟨segment, hsegment, rfl⟩ := List.mem_map.mp found
  obtain ⟨front, back, -, -, whole⟩ := exists_eq_append_trim segment
  constructor
  · rw [String.toList_ofList]
    exact .of_trim (by simpa using nonempty)
  · rw [String.toList_ofList]
    intro comma
    apply not_mem_of_mem_splitAt hsegment
    rw [whole]
    exact List.mem_append_left _ (List.mem_append_right _ comma)

/-- The flags of a text can stand between commas, and the text is put together from no others. -/
theorem splitFlags_eq_iff :
    splitFlags text = flags ↔ (∀ flag ∈ flags, IsFlag flag) ∧ IsSpelling text flags := by
  constructor
  · rintro rfl
    refine ⟨fun flag => isFlag_of_mem_splitFlags, _, ?_, spells_flagsIn _⟩
    exact (intercalate_splitAt ',' text.toList).symm
  · rintro ⟨plain, segments, whole, spells⟩
    rw [splitFlags_eq, whole]
    by_cases empty : segments = []
    · -- No segments at all make the text that a single blank segment makes.
      subst empty
      cases spells
      rfl
    · rw [splitAt_intercalate empty (spells.notMem_comma plain), spells.flagsIn_eq plain]

theorem specialFlags_text (text : String) : specialFlags (.text text) = .ok (splitFlags text) := by
  unfold specialFlags
  by_cases empty : text = ""
  · subst empty
    rfl
  · simp [Value.isTruthy, empty]

theorem specialFlags_list (flags : List String) :
    specialFlags (.list (flags.map .text)) = .ok flags := by
  have labels : (flags.map Value.text).mapM Value.label = .ok flags := by
    induction flags with
    | nil => rfl
    | cons flag flags ih =>
      rw [List.map_cons, List.mapM_cons, ih]
      rfl
  unfold specialFlags
  cases flags with
  | nil => rfl
  | cons flag flags => exact labels

theorem isAliasField_iff {tag : Option String} :
    isAliasField tag flags ↔ tag = some "alias" ∨ ∃ flag ∈ flags, flag ∈ aliasFlags := by
  simp [isAliasField]

end Typescribe.Snapshot
