import Typescribe.Proofs.Declaration.Union

/-!
This module contains the members of type expressions of any kind, also of those that leave quotes or
brackets open: joined again they are the same members, and behind an expression that leaves nothing
open `null` becomes a member of its own.
-/

namespace Typescribe.Declaration

open Text (IsPadding isBlank)

namespace Position

/--
Where a scan can stand: an open quote is one of the two marks, and outside of quotes no backslash is
pending.
-/
structure IsProper (p : Position) : Prop where
  quote : ∀ mark, p.quote = some mark → mark = '\'' ∨ mark = '"'
  escaped : p.quote = none → p.escaped = false

theorem isProper_start : start.IsProper where
  quote _ h := by cases h
  escaped _ := rfl

variable {p q : Position} {c : Char} {cs : List Char}

theorem IsProper.next (h : p.IsProper) (c : Char) : (p.next c).IsProper := by
  unfold Position.next
  split
  · next mark inside =>
    have quoted : p.quote ≠ none := by simp [inside]
    split
    · exact ⟨h.quote, fun outside => absurd outside quoted⟩
    · next settled =>
      split
      · exact ⟨h.quote, fun outside => absurd outside quoted⟩
      · split
        · exact ⟨fun _ closed => (by cases closed), fun _ => by simpa using settled⟩
        · exact h
  · next outside =>
    have settled := h.escaped outside
    split
    · next mark =>
      refine ⟨fun d opened => ?_, fun closed => by cases closed⟩
      cases opened
      simpa using mark
    · split
      · exact ⟨h.quote, fun _ => settled⟩
      · split
        · exact ⟨h.quote, fun _ => settled⟩
        · exact h

/-- The position after a text, whatever separators are in it. -/
def after (p : Position) (cs : List Char) : Position :=
  cs.foldl next p

theorem after_cons (p : Position) (c : Char) (cs : List Char) :
    p.after (c :: cs) = (p.next c).after cs := rfl

theorem IsProper.after (h : p.IsProper) (cs : List Char) : (p.after cs).IsProper := by
  induction cs generalizing p with
  | nil => exact h
  | cons c cs ih => exact ih (h.next c)

theorem IsProper.eq_start (h : p.IsProper) (depth : p.depth = 0) (outside : p.quote = none) :
    p = start := by
  have settled := h.escaped outside
  cases p
  simp_all [start]

theorem IsProper.eq_start_of_separates (h : p.IsProper) (bar : p.separates c) : p = start := by
  simp only [separates, Bool.and_eq_true, decide_eq_true_eq, Option.isNone_iff_eq_none] at bar
  exact h.eq_start bar.2 bar.1.2

theorem next_of_separates (h : p.separates c) : p.next c = p := by
  simp only [separates, Bool.and_eq_true, decide_eq_true_eq, Option.isNone_iff_eq_none] at h
  obtain ⟨⟨rfl, outside⟩, -⟩ := h
  simp [next, outside]

/-! ### White space -/

theorem not_mark_of_isBlank (h : isBlank c) : c ∉ marks ∧ c ≠ '\\' := by
  have apart : ∀ mark ∈ '\\' :: marks, isBlank mark = false := Text.forall_mem_of_all rfl
  have other {mark : Char} (hmark : mark ∈ '\\' :: marks) : c ≠ mark := by
    rintro rfl
    rw [apart c hmark] at h
    cases h
  exact ⟨fun hc => other (List.mem_cons_of_mem _ hc) rfl, other List.mem_cons_self⟩

theorem separates_of_isBlank (h : isBlank c) (p : Position) : p.separates c = false := by
  have bar : c ≠ '|' := by
    rintro rfl
    exact (not_mark_of_isBlank h).1 List.mem_cons_self
  simp [separates, bar]

theorem next_of_isBlank (h : isBlank c) (outside : p.quote = none) : p.next c = p := by
  have plain := (not_mark_of_isBlank h).1
  simp only [marks, List.mem_cons, List.not_mem_nil, or_false, not_or] at plain
  simp [next, outside, plain]

theorem cross?_padding (h : IsPadding cs) (outside : p.quote = none) : p.cross? cs = some p := by
  induction cs with
  | nil => rfl
  | cons c cs ih =>
    obtain ⟨blank, others⟩ := List.forall_mem_cons.mp h
    rw [cross?, separates_of_isBlank blank, next_of_isBlank blank outside]
    exact ih others

/-- White space neither opens a quote nor closes one. -/
theorem quote_next_of_isBlank (proper : p.IsProper) (h : isBlank c) :
    (p.next c).quote = p.quote := by
  rcases inside : p.quote with _ | mark
  · rw [next_of_isBlank h inside, inside]
  · have other : c ≠ mark := by
      rintro rfl
      have isMark : c ∈ marks := by
        rcases proper.quote c inside with rfl | rfl <;> decide
      exact (not_mark_of_isBlank h).1 isMark
    simp only [next, inside, other, (not_mark_of_isBlank h).2, if_false]
    split <;> simp [inside]

theorem quote_of_cross?_padding (proper : p.IsProper) (h : IsPadding cs)
    (crossed : p.cross? cs = some q) : q.quote = p.quote := by
  induction cs generalizing p with
  | nil =>
    cases crossed
    rfl
  | cons c cs ih =>
    obtain ⟨blank, others⟩ := List.forall_mem_cons.mp h
    rw [cross?, separates_of_isBlank blank] at crossed
    rw [ih (proper.next c) others crossed, quote_next_of_isBlank proper blank]

theorem IsProper.cross? (h : p.IsProper) (crossed : p.cross? cs = some q) : q.IsProper := by
  induction cs generalizing p with
  | nil =>
    cases crossed
    exact h
  | cons c cs ih =>
    unfold Position.cross? at crossed
    split at crossed
    · cases crossed
    · exact ih (h.next c) crossed

/-- A text that leads out of all quotes leads to the same position without white space around it. -/
theorem exists_cross?_trim (proper : p.IsProper) (outside : p.quote = none)
    (crossed : p.cross? cs = some q) :
    ∃ r, p.cross? (Text.trim cs) = some r ∧ (q.quote = none → r = q) := by
  obtain ⟨front, back, hfront, hback, whole⟩ := Text.exists_eq_append_trim cs
  rw [whole, List.append_assoc, cross?_append, cross?_padding hfront outside, Option.bind_some,
    cross?_append] at crossed
  obtain ⟨r, reached, left⟩ := Option.bind_eq_some_iff.mp crossed
  refine ⟨r, reached, fun closed => ?_⟩
  rw [quote_of_cross?_padding (proper.cross? reached) hback left] at closed
  rw [cross?_padding hback closed] at left
  exact Option.some.inj left

end Position

open Position

variable {p : Position} {pieces : List (List Char)}

/-! ### Pieces -/

theorem Scans.modifyHead {c : Char} (bar : p.separates c = false)
    (h : Scans (p.next c) pieces) : Scans p (pieces.modifyHead (c :: ·)) := by
  have step (cs : List Char) : p.cross? (c :: cs) = (p.next c).cross? cs := by
    rw [cross?, bar]
    rfl
  cases h with
  | last crossed => exact .last ((step _).trans crossed)
  | more crossed rest => exact .more ((step _).trans crossed) rest

theorem scans_unionPieces (proper : p.IsProper) (cs : List Char) : Scans p (unionPieces p cs) := by
  induction cs generalizing p with
  | nil => exact .last rfl
  | cons c cs ih =>
    cases bar : p.separates c with
    | true =>
      have here := proper.eq_start_of_separates bar
      rw [unionPieces, if_pos bar, here]
      exact .more rfl (ih isProper_start)
    | false =>
      rw [unionPieces_cons bar]
      exact (ih (proper.next c)).modifyHead bar

theorem Scans.map_trim (h : Scans p pieces) (proper : p.IsProper) (outside : p.quote = none) :
    Scans p (pieces.map Text.trim) := by
  induction h with
  | last crossed =>
    obtain ⟨r, trimmed, -⟩ := exists_cross?_trim proper outside crossed
    exact .last trimmed
  | more crossed rest ih =>
    obtain ⟨r, trimmed, same⟩ := exists_cross?_trim proper outside crossed
    rw [same rfl] at trimmed
    exact .more trimmed (ih isProper_start rfl)

theorem unionMembers_intercalate_unionMembers (expression : String) :
    unionMembers (String.intercalate " | " (unionMembers expression))
      = unionMembers expression := by
  have scans := (scans_unionPieces isProper_start expression.toList).map_trim isProper_start rfl
  rw [← map_toList_unionMembers] at scans
  apply (List.map_inj_right fun _ _ => String.toList_injective).mp
  calc (unionMembers (String.intercalate " | " (unionMembers expression))).map String.toList
    _ = (unionMembers expression).map (Text.trim ·.toList) :=
      unionMembers_intercalate_of_scans scans
    _ = ((unionMembers expression).map String.toList).map Text.trim := by
      rw [List.map_map]
      rfl
    _ = (unionMembers expression).map String.toList := by
      rw [map_toList_unionMembers, List.map_map]
      exact List.map_congr_left fun piece _ => Text.trim_trim piece

/-! ### Null as a member -/

/-- A text that is put behind another one continues its last piece. -/
theorem exists_unionPieces_append (p : Position) (cs : List Char) :
    ∃ front last, ∀ rest, unionPieces p (cs ++ rest)
      = front ++ (unionPieces (p.after cs) rest).modifyHead (last ++ ·) := by
  induction cs generalizing p with
  | nil =>
    refine ⟨[], [], fun rest => ?_⟩
    exact (congrFun List.modifyHead_id _).symm
  | cons c cs ih =>
    obtain ⟨front, last, continued⟩ := ih (p.next c)
    cases bar : p.separates c with
    | true =>
      rw [next_of_separates bar] at continued
      refine ⟨[] :: front, last, fun rest => ?_⟩
      rw [List.cons_append, unionPieces, if_pos bar, continued, after_cons, next_of_separates bar]
      rfl
    | false =>
      cases front with
      | nil =>
        refine ⟨[], c :: last, fun rest => ?_⟩
        rw [List.cons_append, unionPieces_cons bar, continued, List.nil_append,
          List.modifyHead_modifyHead]
        rfl
      | cons piece front =>
        refine ⟨(c :: piece) :: front, last, fun rest => ?_⟩
        rw [List.cons_append, unionPieces_cons bar, continued]
        rfl

/-- A type expression that leaves neither a quote nor a bracket open. -/
structure IsClosed (expression : String) : Prop where
  depth : (start.after expression.toList).depth = 0
  quote : (start.after expression.toList).quote = none

theorem unionMembers_append_null {expression : String} (closed : IsClosed expression) :
    unionMembers (expression ++ " | null") = unionMembers expression ++ ["null"] := by
  have ending : start.after expression.toList = start :=
    (isProper_start.after _).eq_start closed.depth closed.quote
  obtain ⟨front, last, continued⟩ := exists_unionPieces_append start expression.toList
  rw [ending] at continued
  have whole := continued []
  rw [List.append_nil] at whole
  have members : (unionMembers expression).map String.toList
      = (front ++ [last]).map Text.trim := by
    rw [map_toList_unionMembers, whole]
    simp [unionPieces]
  have behind : unionPieces start " | null".toList = [[' '], " null".toList] := by decide
  have spaced : Text.trim (last ++ [' ']) = Text.trim last :=
    Text.trim_append_padding Text.isPadding_space last
  have null : Text.trim " null".toList = "null".toList := by decide
  apply (List.map_inj_right fun _ _ => String.toList_injective).mp
  calc (unionMembers (expression ++ " | null")).map String.toList
    _ = (front ++ [last ++ [' '], " null".toList]).map Text.trim := by
      rw [map_toList_unionMembers, String.toList_append, continued, behind]
      rfl
    _ = (front ++ [last]).map Text.trim ++ ["null".toList] := by
      simp only [List.map_append, List.map_cons, List.map_nil, spaced, null, List.append_assoc,
        List.singleton_append]
    _ = (unionMembers expression ++ ["null"]).map String.toList := by
      rw [← members, List.map_append]
      rfl

/--
The members of any expression, joined, have the same members. Where the expression leaves nothing
open, its nullable form has `null` as one more member, or is the expression itself.
-/
theorem unionMembers_rejoined_and_withNull (expression : String) :
    unionMembers (String.intercalate " | " (unionMembers expression)) = unionMembers expression
      ∧ (IsClosed expression →
        unionMembers (withNull expression)
            = (if "null" ∈ unionMembers expression then unionMembers expression
              else unionMembers expression ++ ["null"])
          ∧ withNull (withNull expression) = withNull expression) := by
  refine ⟨unionMembers_intercalate_unionMembers expression, fun closed => ?_⟩
  by_cases known : "null" ∈ unionMembers expression
  · have same : withNull expression = expression := withNull_of_mem known
    rw [if_pos known, same]
    exact ⟨rfl, same⟩
  · have added := unionMembers_append_null closed
    have nullable : withNull expression = expression ++ " | null" := withNull_of_not_mem known
    rw [if_neg known, nullable]
    exact ⟨added, withNull_of_mem (added ▸ List.mem_append_right _ List.mem_cons_self)⟩

/-- Bars in brackets and in quotes, an escaped quote, and white space that is no space. -/
def bracketedUnion : String := "\tMap<a | 'b\\' | '>|  (x | y)[]\u00a0 | "

theorem unionMembers_rejoined_and_withNull_bracketed :
    IsClosed bracketedUnion
      ∧ unionMembers bracketedUnion = ["Map<a | 'b\\' | '>", "(x | y)[]", ""]
      ∧ unionMembers (withNull bracketedUnion)
        = ["Map<a | 'b\\' | '>", "(x | y)[]", "", "null"] := by
  have closed : IsClosed bracketedUnion := ⟨by decide, by decide⟩
  have members : unionMembers bracketedUnion = ["Map<a | 'b\\' | '>", "(x | y)[]", ""] := by
    decide
  obtain ⟨nullable, -⟩ := (unionMembers_rejoined_and_withNull bracketedUnion).2 closed
  refine ⟨closed, members, ?_⟩
  rw [nullable, members]
  rfl

/-- An open quote takes the addition into the last member. -/
example : unionMembers (withNull "a | 'b ") = ["a", "'b  | null"] := by decide

end Typescribe.Declaration
