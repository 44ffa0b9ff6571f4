import Typescribe.Declaration.Union
import Typescribe.Proofs.Text.Ascii
import Typescribe.Proofs.Text.Blank

/-!
This module contains the members of type expressions that are put together from parts. The scanner
crosses a solid part without seeing a separator and comes back to where it was; what stands inside
brackets may hold separators of its own.
-/

namespace Typescribe.Declaration

namespace Position

def level (depth : Nat) : Position := ⟨depth, none, false⟩

/-- The position after a text, if the scanner meets no separator in it. -/
def cross? : Position → List Char → Option Position
  | p, [] => some p
  | p, c :: rest => if p.separates c then none else cross? (p.next c) rest

theorem cross?_append (p : Position) (front back : List Char) :
    p.cross? (front ++ back) = (p.cross? front).bind (·.cross? back) := by
  induction front generalizing p with
  | nil => rfl
  | cons c front ih =>
    simp only [List.cons_append, cross?]
    split
    · rfl
    · exact ih (p.next c)

def marks : List Char := ['|', '\'', '"', '(', '[', '{', '<', ')', ']', '}', '>']

theorem next_level_of_not_mark {c : Char} (h : c ∉ marks) (depth : Nat) :
    (level depth).next c = level depth := by
  simp only [marks, List.mem_cons, List.not_mem_nil, or_false, not_or] at h
  simp [level, next, h]

theorem separates_level_of_not_mark {c : Char} (h : c ∉ marks) (depth : Nat) :
    (level depth).separates c = false := by
  have hc : c ≠ '|' := fun e => h (e ▸ List.mem_cons_self)
  simp [separates, hc]

end Position

open Position

theorem unionPieces_cons {p : Position} {c : Char} (h : p.separates c = false)
    (rest : List Char) :
    unionPieces p (c :: rest) = (unionPieces (p.next c) rest).modifyHead (c :: ·) := by
  obtain ⟨piece, pieces, hp⟩ := List.exists_cons_of_ne_nil (unionPieces_ne_nil (p.next c) rest)
  simp [unionPieces, h, hp]

theorem unionPieces_append {p q : Position} {cs : List Char} (h : p.cross? cs = some q)
    (rest : List Char) :
    unionPieces p (cs ++ rest) = (unionPieces q rest).modifyHead (cs ++ ·) := by
  induction cs generalizing p with
  | nil =>
    obtain rfl : p = q := by simpa [cross?] using h
    obtain ⟨piece, pieces, hp⟩ := List.exists_cons_of_ne_nil (unionPieces_ne_nil p rest)
    simp [hp]
  | cons c cs ih =>
    simp only [cross?] at h
    split at h
    · cases h
    · next hc =>
      rw [List.cons_append, unionPieces_cons (by simpa using hc), ih h, List.modifyHead_modifyHead]
      rfl

/-- A text that the scanner crosses at any depth of brackets. -/
def Solid (cs : List Char) : Prop :=
  ∀ depth, (level depth).cross? cs = some (level depth)

/-- A text that the scanner crosses inside of brackets. -/
def Nested (cs : List Char) : Prop :=
  ∀ depth, (level (depth + 1)).cross? cs = some (level (depth + 1))

namespace Solid

theorem nil : Solid [] := fun _ => rfl

theorem nested {cs : List Char} (h : Solid cs) : Nested cs := fun depth => h (depth + 1)

theorem append {front back : List Char} (hf : Solid front) (hb : Solid back) :
    Solid (front ++ back) := by
  intro depth
  rw [cross?_append, hf depth]
  exact hb depth

theorem of_not_marks {cs : List Char} (h : ∀ c ∈ cs, c ∉ marks) : Solid cs := by
  intro depth
  induction cs with
  | nil => rfl
  | cons c cs ih =>
    have hc := h c List.mem_cons_self
    have hcs := ih fun d hd => h d (List.mem_cons_of_mem _ hd)
    simp only [cross?, separates_level_of_not_mark hc, next_level_of_not_mark hc,
      Bool.false_eq_true, if_false, hcs]

theorem parentheses {cs : List Char} (h : Nested cs) : Solid ('(' :: cs ++ [')']) := by
  intro depth
  have inside : (level depth).next '(' = level (depth + 1) := by simp [level, next]
  have outside : (level (depth + 1)).next ')' = level depth := by simp [level, next]
  simp [cross?_append, cross?, separates, inside, h depth, outside]

theorem brackets {cs : List Char} (h : Nested cs) : Solid ('[' :: cs ++ [']']) := by
  intro depth
  have inside : (level depth).next '[' = level (depth + 1) := by simp [level, next]
  have outside : (level (depth + 1)).next ']' = level depth := by simp [level, next]
  simp [cross?_append, cross?, separates, inside, h depth, outside]

end Solid

namespace Nested

theorem append {front back : List Char} (hf : Nested front) (hb : Nested back) :
    Nested (front ++ back) := by
  intro depth
  rw [cross?_append, hf depth]
  exact hb depth

theorem separator : Nested [' ', '|', ' '] := by
  intro depth
  have space : (level (depth + 1)).next ' ' = level (depth + 1) := by simp [level, next]
  have bar : (level (depth + 1)).next '|' = level (depth + 1) := by simp [level, next]
  -- Only at depth zero is a bar a separator.
  have inside : (level (depth + 1)).separates '|' = false := by
    have deep : ((depth + 1 : Nat) : Int) ≠ 0 := by omega
    simp only [level, separates, deep, decide_false, Bool.and_false]
  have plain : (level (depth + 1)).separates ' ' = false := by simp [separates]
  simp [cross?, space, bar, inside, plain]

theorem intercalate {parts : List (List Char)} (h : ∀ part ∈ parts, Solid part) :
    Nested ([' ', '|', ' '].intercalate parts) := by
  induction parts with
  | nil => exact Solid.nil.nested
  | cons part parts ih =>
    have hpart := (h part List.mem_cons_self).nested
    cases parts with
    | nil => simpa using hpart
    | cons next parts =>
      rw [List.intercalate_cons_cons]
      have hrest := ih fun p hp => h p (List.mem_cons_of_mem _ hp)
      exact (hpart.append separator).append hrest

end Nested

/-- A type expression that is a single member of every union it stands in. -/
structure Atomic (expression : String) : Prop where
  solid : Solid expression.toList
  trimmed : Text.IsTrimmed expression.toList

theorem Atomic.ne_empty {expression : String} (h : Atomic expression) : expression ≠ "" := by
  rintro rfl
  exact h.trimmed.nonempty rfl

/--
Texts that a scan finds one after another from a position on: all but the last one lead back to the
start. The last one can leave a quote or a bracket open.
-/
inductive Scans : Position → List (List Char) → Prop where
  | last {p q : Position} {piece : List Char} (h : p.cross? piece = some q) : Scans p [piece]
  | more {p : Position} {piece : List Char} {pieces : List (List Char)}
    (h : p.cross? piece = some start) (rest : Scans start pieces) : Scans p (piece :: pieces)

theorem Scans.ne_nil {p : Position} {pieces : List (List Char)} (h : Scans p pieces) :
    pieces ≠ [] := by
  cases h <;> simp

theorem scans_of_solid {pieces : List (List Char)} (nonempty : pieces ≠ [])
    (h : ∀ piece ∈ pieces, Solid piece) : Scans start pieces := by
  induction pieces with
  | nil => exact absurd rfl nonempty
  | cons piece pieces ih =>
    obtain ⟨solid, others⟩ := List.forall_mem_cons.mp h
    by_cases last : pieces = []
    · subst last
      exact .last (solid 0)
    · exact .more (solid 0) (ih last others)

theorem unionPieces_separator {p : Position} {piece : List Char} (h : p.cross? piece = some start)
    (rest : List Char) :
    unionPieces p (piece ++ [' ', '|', ' '] ++ rest)
      = (piece ++ [' ']) :: (unionPieces start rest).modifyHead (' ' :: ·) := by
  have space : Solid [' '] := Solid.of_not_marks (Text.forall_mem_of_all rfl)
  have bar : start.separates '|' = true := rfl
  have back : unionPieces start (' ' :: rest) = (unionPieces start rest).modifyHead (' ' :: ·) :=
    unionPieces_append (space 0) rest
  have front : p.cross? (piece ++ [' ']) = some start := by
    rw [cross?_append, h]
    exact space 0
  have whole := unionPieces_append front ('|' :: ' ' :: rest)
  rw [unionPieces, if_pos bar, back] at whole
  simpa using whole

theorem map_trim_modifyHead_space (pieces : List (List Char)) :
    (pieces.modifyHead (' ' :: ·)).map Text.trim = pieces.map Text.trim := by
  cases pieces with
  | nil => rfl
  | cons piece pieces => simp [Text.trim_space_cons]

/-- The separator leaves a space at the end of a piece and one at the start of the next. -/
theorem map_trim_unionPieces {p : Position} {pieces : List (List Char)} (h : Scans p pieces) :
    (unionPieces p ([' ', '|', ' '].intercalate pieces)).map Text.trim
      = pieces.map Text.trim := by
  induction h with
  | last crossed =>
    have whole := unionPieces_append crossed []
    rw [List.append_nil] at whole
    rw [List.intercalate_singleton, whole]
    simp [unionPieces]
  | more crossed rest ih =>
    obtain ⟨next, others, rfl⟩ := List.exists_cons_of_ne_nil rest.ne_nil
    rw [List.intercalate_cons_cons, unionPieces_separator crossed, List.map_cons,
      map_trim_modifyHead_space, ih, Text.trim_append_padding Text.isPadding_space]
    rfl

theorem map_toList_unionMembers (expression : String) :
    (unionMembers expression).map String.toList
      = (unionPieces start expression.toList).map Text.trim := by
  simp [unionMembers, Function.comp_def]

theorem unionMembers_intercalate_of_scans {parts : List String}
    (h : Scans start (parts.map String.toList)) :
    (unionMembers (String.intercalate " | " parts)).map String.toList
      = parts.map (Text.trim ·.toList) := by
  have separator : " | ".toList = [' ', '|', ' '] := rfl
  rw [map_toList_unionMembers, String.toList_intercalate, separator, map_trim_unionPieces h,
    List.map_map]
  rfl

theorem unionMembers_intercalate {parts : List String} (nonempty : parts ≠ [])
    (h : ∀ part ∈ parts, Atomic part) :
    unionMembers (String.intercalate " | " parts) = parts := by
  have scans : Scans start (parts.map String.toList) := by
    apply scans_of_solid (by simpa using nonempty)
    intro piece hpiece
    obtain ⟨part, hpart, rfl⟩ := List.mem_map.mp hpiece
    exact (h part hpart).solid
  have trimmed : ∀ part ∈ parts, Text.trim part.toList = part.toList :=
    fun part hpart => (h part hpart).trimmed.trim_eq
  have members := unionMembers_intercalate_of_scans scans
  rw [List.map_congr_left trimmed] at members
  exact (List.map_inj_right fun _ _ => String.toList_injective).mp members

theorem withNull_of_mem {expression : String} (h : "null" ∈ unionMembers expression) :
    withNull expression = expression := by
  rw [withNull, if_pos (List.contains_iff_mem.mpr h)]

theorem withNull_of_not_mem {expression : String} (h : "null" ∉ unionMembers expression) :
    withNull expression = expression ++ " | null" := by
  rw [withNull, if_neg (mt List.contains_iff_mem.mp h)]

theorem Atomic.unionMembers_eq {expression : String} (h : Atomic expression) :
    unionMembers expression = [expression] := by
  have members : unionMembers (String.intercalate " | " [expression]) = [expression] :=
    unionMembers_intercalate (by simp) (by simpa using h)
  simpa using members

theorem mem_of_mem_intercalate {parts : List String} {c : Char}
    (h : c ∈ (String.intercalate " | " parts).toList) (bar : c ≠ '|') (space : c ≠ ' ') :
    ∃ part ∈ parts, c ∈ part.toList := by
  induction parts with
  | nil => simp at h
  | cons part parts ih =>
    by_cases last : parts = []
    · exact ⟨part, List.mem_cons_self, by simpa [last] using h⟩
    · rw [String.intercalate_cons_of_ne_nil last, String.toList_append, String.toList_append,
        List.append_assoc] at h
      rcases List.mem_append.mp h with h | h
      · exact ⟨part, List.mem_cons_self, h⟩
      · obtain ⟨other, ho, hc⟩ := ih (by simpa [bar, space] using h)
        exact ⟨other, List.mem_cons_of_mem _ ho, hc⟩

theorem Atomic.null : Atomic "null" where
  solid := Solid.of_not_marks (Text.forall_mem_of_all rfl)
  trimmed := Text.IsTrimmed.of_forall (by decide) (Text.forall_mem_of_all rfl)

end Typescribe.Declaration
