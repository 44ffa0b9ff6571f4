import Mathlib.Data.List.Chain
import Mathlib.Data.List.DropRight
import Typescribe.Declaration.Comment

/-!
This module contains comments without an early end: a note, whatever it holds, does not end the
comment that it stands in.
-/

namespace Typescribe.Declaration

def behindCommentEnd? : List Char → Option (List Char)
  | '*' :: '/' :: rest => some rest
  | _ :: rest => behindCommentEnd? rest
  | [] => none

/-- A text without a mark that ends a comment. -/
def Endless (cs : List Char) : Prop :=
  cs.IsChain fun c d => ¬(c = '*' ∧ d = '/')

theorem endless_iff_occursIn {cs : List Char} :
    Endless cs ↔ Text.occursIn ['*', '/'] cs = false := by
  induction cs with
  | nil => simp [Endless, Text.occursIn]
  | cons c cs ih =>
    cases cs with
    | nil => simp [Endless, Text.occursIn, List.isPrefixOf]
    | cons d cs =>
      have tail : (d :: cs).IsChain (fun c d => ¬(c = '*' ∧ d = '/'))
          ↔ Text.occursIn ['*', '/'] (d :: cs) = false := ih
      have first : ['*', '/'].isPrefixOf (c :: d :: cs) = false ↔ ¬(c = '*' ∧ d = '/') := by
        simp only [List.isPrefixOf, Bool.and_true, Bool.and_eq_false_iff, beq_eq_false_iff_ne,
          not_and_or]
        exact or_congr ne_comm ne_comm
      rw [Endless, List.isChain_cons_cons, tail, ← first, ← Bool.or_eq_false_iff]
      rfl

namespace Endless

theorem append {front back : List Char} (hf : Endless front) (hb : Endless back)
    (h : ∀ c ∈ front.getLast?, ∀ d ∈ back.head?, ¬(c = '*' ∧ d = '/')) :
    Endless (front ++ back) :=
  List.isChain_append.mpr ⟨hf, hb, h⟩

theorem append_cons {front back : List Char} {c : Char} (hf : Endless front) (hb : Endless back)
    (star : c ≠ '*') (slash : c ≠ '/') : Endless (front ++ c :: back) := by
  have middle : Endless [c] := List.isChain_singleton c
  apply hf.append
  · apply middle.append hb
    rintro d hd _ - ⟨rfl, -⟩
    exact star (by simpa using hd)
  · rintro _ - d hd ⟨-, rfl⟩
    exact slash (by simpa using hd)

theorem of_front {front whole : List Char} (h : Endless whole) (hp : front <+: whole) :
    Endless front :=
  List.IsChain.prefix h hp

end Endless

theorem head?_escapeCommentEnd (cs : List Char) : (escapeCommentEnd cs).head? = cs.head? := by
  fun_cases escapeCommentEnd cs <;> rfl

theorem endless_escapeCommentEnd (cs : List Char) : Endless (escapeCommentEnd cs) := by
  fun_induction escapeCommentEnd cs with
  | case1 rest ih =>
    have front : Endless ['*', '\\', '/'] := by simp [Endless]
    exact front.append ih (by simp)
  | case2 c rest other ih =>
    have front : Endless [c] := List.isChain_singleton c
    apply front.append ih
    -- A slash behind this star would be the next character of the note: the case before.
    rintro _ hs _ hl ⟨rfl, rfl⟩
    rw [head?_escapeCommentEnd] at hl
    obtain ⟨tail, rfl⟩ := List.head?_eq_some_iff.mp hl
    exact other tail (by simpa using hs) rfl
  | case3 => exact List.IsChain.nil

theorem trimEnd_front (cs : List Char) : Text.trimEnd cs <+: cs :=
  List.rdropWhile_prefix Text.isBlank cs

theorem endless_of_mem_noteLines {note line : List Char} (h : line ∈ noteLines note) :
    Endless line := by
  unfold noteLines at h
  split at h
  · rw [List.mem_singleton.mp h]
    exact List.IsChain.nil
  · obtain ⟨raw, -, rfl⟩ := List.mem_map.mp h
    exact (endless_escapeCommentEnd raw).of_front (trimEnd_front _)

theorem endless_commentLine {line : List Char} (h : Endless line) :
    Endless (commentLine line).toList := by
  have start : Endless "   * ".toList := endless_iff_occursIn.mpr (by decide)
  rw [commentLine, String.toList_ofList]
  exact (start.append h (by simp)).of_front (trimEnd_front _)

theorem behindCommentEnd?_append {cs : List Char} (h : Endless cs) (rest : List Char) :
    behindCommentEnd? (cs ++ '*' :: '/' :: rest) = some rest := by
  induction cs with
  | nil => rfl
  | cons c cs ih =>
    have further : behindCommentEnd? (cs ++ '*' :: '/' :: rest) = some rest :=
      ih (List.IsChain.tail h)
    rw [List.cons_append, behindCommentEnd?.eq_2 _ _ ?_, further]
    rintro tail rfl he
    cases cs with
    | nil => cases he
    | cons d cs =>
      obtain ⟨rfl, -⟩ := List.cons.inj he
      exact (List.isChain_cons_cons.mp h).1 ⟨rfl, rfl⟩

end Typescribe.Declaration
