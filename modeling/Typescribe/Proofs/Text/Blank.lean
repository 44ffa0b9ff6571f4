import Typescribe.Text.Blank

/-!
This module contains lemmas about the trimming of texts: what white space around a text is to it, and
which texts stay as they are.
-/

namespace Typescribe.Text

/-- A text of white space only. -/
def IsPadding (cs : List Char) : Prop :=
  ∀ c ∈ cs, isBlank c

instance (cs : List Char) : Decidable (IsPadding cs) :=
  List.decidableBAll (fun c => isBlank c) cs

theorem isPadding_space : IsPadding [' '] := by decide

theorem trim_padding_append {front : List Char} (h : IsPadding front) (cs : List Char) :
    trim (front ++ cs) = trim cs := by
  unfold trim trimStart
  rw [List.dropWhile_append_of_pos h]

theorem trimEnd_append_padding {back : List Char} (h : IsPadding back) (cs : List Char) :
    trimEnd (cs ++ back) = trimEnd cs := by
  unfold trimEnd
  rw [List.reverse_append, List.dropWhile_append_of_pos fun c hc => h c (List.mem_reverse.mp hc)]

theorem IsPadding.trim_eq_nil {cs : List Char} (h : IsPadding cs) : trim cs = [] := by
  have none := trim_padding_append h []
  rwa [List.append_nil] at none

theorem trim_append_padding {back : List Char} (h : IsPadding back) (cs : List Char) :
    trim (cs ++ back) = trim cs := by
  unfold trim trimStart
  rw [List.dropWhile_append]
  split
  · next blank =>
    -- Where there is only white space before it, the padding is trimmed from the start.
    rw [List.isEmpty_iff.mp blank]
    exact h.trim_eq_nil
  · exact trimEnd_append_padding h _

theorem exists_eq_append_trim (cs : List Char) :
    ∃ front back, IsPadding front ∧ IsPadding back ∧ cs = front ++ trim cs ++ back := by
  have blank {c : Char} {ds : List Char} (h : c ∈ ds.takeWhile isBlank) : isBlank c :=
    List.all_eq_true.mp List.all_takeWhile c h
  refine ⟨cs.takeWhile isBlank, ((trimStart cs).reverse.takeWhile isBlank).reverse,
    fun c => blank, fun c hc => blank (List.mem_reverse.mp hc), ?_⟩
  unfold trim trimEnd
  rw [List.append_assoc, ← List.reverse_append, List.takeWhile_append_dropWhile,
    List.reverse_reverse]
  exact List.takeWhile_append_dropWhile.symm

theorem trim_trim (cs : List Char) : trim (trim cs) = trim cs := by
  obtain ⟨front, back, hfront, hback, whole⟩ := exists_eq_append_trim cs
  have trimmed : trim (front ++ trim cs ++ back) = trim (trim cs) := by
    rw [trim_append_padding hback, trim_padding_append hfront]
  rwa [← whole, eq_comm] at trimmed

theorem isBlank_of_head?_trimStart {cs : List Char} {c : Char}
    (h : (trimStart cs).head? = some c) : isBlank c = false := by
  have first := List.head?_dropWhile_not isBlank cs
  rw [trimStart] at h
  rwa [h] at first

theorem trim_space_cons (cs : List Char) : trim (' ' :: cs) = trim cs :=
  trim_padding_append isPadding_space cs

theorem trimEnd_append_cons {c : Char} (h : isBlank c = false) (front back : List Char) :
    trimEnd (front ++ c :: back) = front ++ c :: trimEnd back := by
  unfold trimEnd
  rw [List.reverse_append, List.reverse_cons, List.append_assoc, List.dropWhile_append]
  split
  · next blank =>
    have empty : back.reverse.dropWhile isBlank = [] := List.isEmpty_iff.mp blank
    rw [List.singleton_append, List.dropWhile_cons_of_neg (by simp [h]), empty]
    simp
  · simp

/-- A text that is not empty and neither starts nor ends with white space. -/
structure IsTrimmed (cs : List Char) : Prop where
  nonempty : cs ≠ []
  first : ∀ c, cs.head? = some c → isBlank c = false
  last : ∀ c, cs.getLast? = some c → isBlank c = false

namespace IsTrimmed

theorem trimStart_append {cs : List Char} (h : IsTrimmed cs) (rest : List Char) :
    trimStart (cs ++ rest) = cs ++ rest := by
  cases cs with
  | nil => exact absurd rfl h.nonempty
  | cons c cs =>
    have hc : isBlank c = false := h.first c rfl
    unfold trimStart
    rw [List.cons_append, List.dropWhile_cons_of_neg (by simp [hc])]

theorem trimEnd_eq {cs : List Char} (h : IsTrimmed cs) : trimEnd cs = cs := by
  obtain ⟨front, c, rfl⟩ : ∃ front c, cs = front ++ [c] :=
    ⟨cs.dropLast, cs.getLast h.nonempty, (List.dropLast_concat_getLast h.nonempty).symm⟩
  have hc : isBlank c = false := h.last c (by simp)
  unfold trimEnd
  rw [List.reverse_append, List.reverse_singleton, List.singleton_append,
    List.dropWhile_cons_of_neg (by simp [hc])]
  simp

theorem trim_eq {cs : List Char} (h : IsTrimmed cs) : trim cs = cs := by
  have start := h.trimStart_append []
  rw [List.append_nil] at start
  unfold trim
  rw [start, h.trimEnd_eq]

theorem append_append {front middle back : List Char} (hf : IsTrimmed front)
    (hb : IsTrimmed back) : IsTrimmed (front ++ middle ++ back) where
  nonempty := by simp [hf.nonempty]
  first c h := by
    apply hf.first c
    simpa [List.head?_append, hf.nonempty] using h
  last c h := by
    apply hb.last c
    simpa [List.getLast?_append, hb.nonempty] using h

theorem append {front back : List Char} (hf : IsTrimmed front) (hb : IsTrimmed back) :
    IsTrimmed (front ++ back) := by
  have h : IsTrimmed (front ++ [] ++ back) := append_append hf hb
  rwa [List.append_nil] at h

theorem of_trim {cs : List Char} (nonempty : trim cs ≠ []) : IsTrimmed (trim cs) where
  nonempty := nonempty
  first c h := by
    have front : trim cs <+: trimStart cs := by
      have suffix := (List.dropWhile_suffix (l := (trimStart cs).reverse) isBlank).reverse
      rwa [List.reverse_reverse] at suffix
    obtain ⟨back, whole⟩ := front
    apply isBlank_of_head?_trimStart
    rw [← whole, List.head?_append, h, Option.some_or]
  last c h := by
    apply isBlank_of_head?_trimStart
    rw [← h, trim, trimEnd, List.getLast?_reverse]
    rfl

theorem of_forall {cs : List Char} (nonempty : cs ≠ []) (h : ∀ c ∈ cs, isBlank c = false) :
    IsTrimmed cs where
  nonempty := nonempty
  first c hc := h c (List.mem_of_mem_head? hc)
  last c hc := h c (List.mem_of_mem_getLast? hc)

end IsTrimmed

end Typescribe.Text
