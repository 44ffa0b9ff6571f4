import Typescribe.Text.Lines

/-!
This module contains the lines of source texts, which end at four characters only: the line feed,
the carriage return and the two separators of lines and paragraphs.
-/

namespace Typescribe.Text

def isLineTerminator (c : Char) : Bool :=
  c = '\n' || c = '\r' || c = '\u2028' || c = '\u2029'

/-- The lines of a source text, without the characters that end them; there is always one line. -/
def sourceLines (cs : List Char) : List (List Char) :=
  cs.splitOnP isLineTerminator

theorem isLineBreak_of_isLineTerminator {c : Char} (h : isLineTerminator c) : isLineBreak c := by
  simp only [isLineTerminator, Bool.or_eq_true, decide_eq_true_eq] at h
  rcases h with ((h | h) | h) | h <;> subst h <;> decide

theorem isLineTerminator_of_printable {c : Char} (h : 0x20 ≤ c.toNat ∧ c.toNat < 0x7F) :
    isLineTerminator c = false := by
  rw [Bool.eq_false_iff]
  intro terminator
  simp only [isLineTerminator, Bool.or_eq_true, decide_eq_true_eq] at terminator
  obtain ((rfl | rfl) | rfl) | rfl := terminator <;> exact absurd h (by decide)

theorem sourceLines_eq_singleton {cs : List Char} (h : ∀ c ∈ cs, isLineTerminator c = false) :
    sourceLines cs = [cs] :=
  List.splitOnP_eq_singleton h

theorem sourceLines_append_newline (front back : List Char) :
    sourceLines (front ++ '\n' :: back) = sourceLines front ++ sourceLines back :=
  List.splitOnP_append_cons front back rfl

theorem sourceLines_append {front : List Char} (h : ∀ c ∈ front, isLineTerminator c = false)
    (back : List Char) :
    sourceLines (front ++ back) = (sourceLines back).modifyHead (front ++ ·) := by
  induction front with
  | nil =>
    obtain ⟨line, lines, split⟩ : ∃ line lines, back.splitOnP isLineTerminator = line :: lines :=
      List.exists_cons_of_ne_nil (List.splitOnP_ne_nil _ _)
    rw [List.nil_append, sourceLines, split]
    rfl
  | cons c front ih =>
    have inside : isLineTerminator c = false := h c List.mem_cons_self
    have others := ih fun d hd => h d (List.mem_cons_of_mem _ hd)
    unfold sourceLines at others ⊢
    rw [List.cons_append, List.splitOnP_cons_eq_if_modifyHead, inside, if_neg Bool.false_ne_true,
      others, List.modifyHead_modifyHead]
    rfl

theorem sourceLines_intercalate {texts : List (List Char)} (h : texts ≠ []) :
    sourceLines (['\n'].intercalate texts) = texts.flatMap sourceLines := by
  induction texts with
  | nil => exact absurd rfl h
  | cons text texts ih =>
    cases texts with
    | nil => simp
    | cons next texts =>
      rw [List.intercalate_cons_cons, List.append_assoc, List.singleton_append,
        sourceLines_append_newline, ih (List.cons_ne_nil _ _)]
      rfl

end Typescribe.Text
