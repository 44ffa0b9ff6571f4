import Typescribe.Proofs.Declaration.Reading
import Typescribe.Proofs.Text.Lines

/-!
This module contains the text of the comment above a member. The note of a field can neither end
the comment nor start a line without a star in it. The two texts that stand in the comment as they
are can: the type tag, and the type of the column.
-/

namespace Typescribe.Declaration

/-- The text of all lines but the last one: for the lines of a member, its comment. -/
def textAbove (lines : List String) : List Char :=
  (String.intercalate "\n" lines.dropLast).toList

/-- A text that holds the mark that ends a comment once: its last two characters. -/
def IsClosedOnce (cs : List Char) : Prop :=
  ∃ front, cs = front ++ ['*', '/'] ∧ Text.occursIn ['*', '/'] (front ++ ['*']) = false

/-- The texts that stand in the comment of a field as they are. -/
def rawTexts (field : Field) : List String :=
  [field.typeTag, columnTypeText field]

theorem textAbove_memberLines (field : Field) (type : String) :
    textAbove (memberLines field type)
      = unlines ("  /**" :: innerLines field) ++ "   */".toList := by
  have lines : "  /**" :: innerLines field ≠ [] := List.cons_ne_nil _ _
  rw [textAbove, memberLines, List.dropLast_concat, commentLines_eq,
    String.intercalate_append_of_ne_nil lines (List.cons_ne_nil _ _), String.toList_append,
    ← toList_linesText lines]
  rfl

/-! ### The end of the comment -/

theorem Endless.of_isInfix {part whole : List Char} (h : Endless whole) (hp : part <:+: whole) :
    Endless part :=
  List.IsChain.infix h hp

theorem infix_unlines {line : String} {lines : List String} (h : line ∈ lines) :
    line.toList <:+: unlines lines := by
  obtain ⟨front, back, rfl⟩ := List.append_of_mem h
  rw [unlines_append, unlines_cons]
  exact ⟨unlines front, '\n' :: unlines back, List.append_assoc _ _ _⟩

theorem infix_unlines_innerLines {field : Field} {raw : String} (h : raw ∈ rawTexts field) :
    raw.toList <:+: unlines ("  /**" :: innerLines field) := by
  have labelled : ∃ label, label ++ raw ∈ innerLines field := by
    simp only [rawTexts, List.mem_cons, List.not_mem_nil, or_false] at h
    rcases h with rfl | rfl
    · exact ⟨"   * Type in directus: ", by simp [innerLines]⟩
    · exact ⟨"   * Type in database: ", by simp [innerLines]⟩
  obtain ⟨label, line⟩ := labelled
  have behind : raw.toList <:+: (label ++ raw).toList := by
    rw [String.toList_append]
    exact List.infix_append_right
  exact behind.trans (infix_unlines (List.mem_cons_of_mem _ line))

theorem isClosedOnce_textAbove_iff (field : Field) (type : String) :
    IsClosedOnce (textAbove (memberLines field type))
      ↔ ∀ raw ∈ rawTexts field, Text.occursIn ['*', '/'] raw.toList = false := by
  rw [textAbove_memberLines]
  constructor
  · rintro ⟨front, whole, endless⟩ raw hr
    have closed : (unlines ("  /**" :: innerLines field) ++ [' ', ' ', ' ']) ++ ['*', '/']
        = front ++ ['*', '/'] := by
      rw [← whole, List.append_assoc]
      rfl
    have front_eq := List.append_cancel_right closed
    have inside : raw.toList <:+: front ++ ['*'] := by
      rw [← front_eq, List.append_assoc]
      exact (infix_unlines_innerLines hr).trans List.infix_append_left
    exact endless_iff_occursIn.mp ((endless_iff_occursIn.mpr endless).of_isInfix inside)
  · intro h
    have tag := endless_iff_occursIn.mpr (h field.typeTag (by simp [rawTexts]))
    have column := endless_iff_occursIn.mpr (h (columnTypeText field) (by simp [rawTexts]))
    have opening : Endless "  /**".toList := endless_iff_occursIn.mpr (by decide)
    have lines : Endless (unlines ("  /**" :: innerLines field)) := by
      apply endless_unlines
      intro line hl
      cases List.mem_cons.mp hl with
      | inl hl => exact hl ▸ opening
      | inr hl => exact endless_of_mem_innerLines tag column line hl
    have ending : Endless [' ', ' ', ' ', '*'] := endless_iff_occursIn.mpr (by decide)
    refine ⟨unlines ("  /**" :: innerLines field) ++ [' ', ' ', ' '], by simp, ?_⟩
    rw [← endless_iff_occursIn, List.append_assoc]
    exact lines.append ending (by simp)

/-! ### The lines of the comment -/

def star : List Char :=
  "   *".toList

theorem isLineBreak_of_mem_escapeCommentEnd {cs : List Char}
    (h : ∀ c ∈ cs, Text.isLineBreak c = false) :
    ∀ c ∈ escapeCommentEnd cs, Text.isLineBreak c = false := by
  fun_induction escapeCommentEnd cs with
  | case1 rest ih =>
    have marks : ∀ c ∈ ['*', '\\', '/'], Text.isLineBreak c = false := Text.forall_mem_of_all rfl
    have others := ih fun c hc => h c (List.mem_cons_of_mem _ (List.mem_cons_of_mem _ hc))
    intro c hc
    cases List.mem_append.mp (show c ∈ ['*', '\\', '/'] ++ escapeCommentEnd rest from hc) with
    | inl hc => exact marks c hc
    | inr hc => exact others c hc
  | case2 first rest _ ih =>
    have others := ih fun c hc => h c (List.mem_cons_of_mem _ hc)
    intro c hc
    cases List.mem_cons.mp hc with
    | inl hc => exact hc ▸ h first List.mem_cons_self
    | inr hc => exact others c hc
  | case3 => exact h

theorem isLineBreak_of_mem_noteLines {note line : List Char} (h : line ∈ noteLines note) :
    ∀ c ∈ line, Text.isLineBreak c = false := by
  unfold noteLines at h
  split at h
  · rw [List.mem_singleton.mp h]
    simp
  · obtain ⟨raw, hr, rfl⟩ := List.mem_map.mp h
    intro c hc
    have inside : c ∈ escapeCommentEnd raw := (trimEnd_front _).subset hc
    exact isLineBreak_of_mem_escapeCommentEnd (Text.isLineBreak_of_mem_splitLines hr) c inside

theorem isLineTerminator_eq_false {c : Char} (h : Text.isLineBreak c = false) :
    Text.isLineTerminator c = false := by
  by_contra terminator
  rw [Text.isLineBreak_of_isLineTerminator (Bool.not_eq_false _ ▸ terminator)] at h
  cases h

theorem sourceLines_commentLine {note line : List Char} (h : line ∈ noteLines note) :
    Text.sourceLines (commentLine line).toList = [(commentLine line).toList] := by
  apply Text.sourceLines_eq_singleton
  have start : ∀ c ∈ "   * ".toList, Text.isLineTerminator c = false := Text.forall_mem_of_all rfl
  intro c hc
  rw [commentLine, String.toList_ofList] at hc
  cases List.mem_append.mp ((trimEnd_front _).subset hc) with
  | inl hc => exact start c hc
  | inr hc => exact isLineTerminator_eq_false (isLineBreak_of_mem_noteLines h c hc)

theorem star_prefix_commentLine (line : List Char) : star <+: (commentLine line).toList := by
  have kept : Text.trimEnd ("   * ".toList ++ line) = star ++ Text.trimEnd (' ' :: line) :=
    Text.trimEnd_append_cons rfl [' ', ' ', ' '] (' ' :: line)
  rw [commentLine, String.toList_ofList, kept]
  exact List.prefix_append star _

/-- The lines of a text behind a label: all but the first one start as they do in the text. -/
theorem star_prefix_labelled_iff (label : List Char)
    (single : ∀ c ∈ star ++ label, Text.isLineTerminator c = false) (raw : String) :
    (∀ line ∈ Text.sourceLines (star ++ label ++ raw.toList), star <+: line)
      ↔ ∀ line ∈ (Text.sourceLines raw.toList).tail, star <+: line := by
  obtain ⟨first, others, split⟩ :
      ∃ first others, Text.sourceLines raw.toList = first :: others :=
    List.exists_cons_of_ne_nil (List.splitOnP_ne_nil _ _)
  rw [Text.sourceLines_append single, split, List.modifyHead_cons, List.forall_mem_cons,
    List.append_assoc, List.tail_cons]
  exact and_iff_right (List.prefix_append star _)

theorem star_prefix_innerLines_iff (field : Field) :
    (∀ line ∈ (innerLines field).flatMap fun line => Text.sourceLines line.toList, star <+: line)
      ↔ ∀ raw ∈ rawTexts field, ∀ line ∈ (Text.sourceLines raw.toList).tail, star <+: line := by
  have notes : ∀ line ∈ (noteLines (noteText field).toList).map commentLine,
      ∀ part ∈ Text.sourceLines line.toList, star <+: part := by
    intro line hl part hp
    obtain ⟨note, hn, rfl⟩ := List.mem_map.mp hl
    rw [sourceLines_commentLine hn] at hp
    exact List.mem_singleton.mp hp ▸ star_prefix_commentLine note
  have empty : ∀ part ∈ Text.sourceLines "   *".toList, star <+: part := by decide
  have tag := star_prefix_labelled_iff " Type in directus: ".toList
    (Text.forall_mem_of_all rfl) field.typeTag
  have column := star_prefix_labelled_iff " Type in database: ".toList
    (Text.forall_mem_of_all rfl) (columnTypeText field)
  simp only [innerLines, rawTexts, List.forall_mem_flatMap, List.forall_mem_append,
    List.forall_mem_cons, String.toList_append]
  constructor
  · rintro ⟨-, -, h, g, -⟩
    exact ⟨tag.mp h, column.mp g, by simp⟩
  · rintro ⟨h, g, -⟩
    exact ⟨notes, empty, tag.mpr h, column.mpr g, by simp⟩

theorem sourceLines_textAbove (field : Field) (type : String) :
    Text.sourceLines (textAbove (memberLines field type))
      = "  /**".toList :: (innerLines field).flatMap (fun line => Text.sourceLines line.toList)
        ++ ["   */".toList] := by
  have lines : (commentLines field).map String.toList ≠ [] := by simp [commentLines]
  rw [textAbove, memberLines, List.dropLast_concat, String.toList_intercalate,
    show "\n".toList = ['\n'] from rfl, Text.sourceLines_intercalate lines, commentLines_eq,
    List.flatMap_map, List.cons_append, List.flatMap_cons, List.flatMap_append]
  rfl

/-- What the comment of a field is: its end and its lines depend on the raw texts alone. -/
theorem isClosedOnce_and_star_prefix_iff (field : Field) (type : String) :
    (IsClosedOnce (textAbove (memberLines field type))
        ↔ ∀ raw ∈ rawTexts field, Text.occursIn ['*', '/'] raw.toList = false)
      ∧ ∃ inner, Text.sourceLines (textAbove (memberLines field type))
            = "  /**".toList :: inner ++ ["   */".toList]
          ∧ ((∀ line ∈ inner, star <+: line)
            ↔ ∀ raw ∈ rawTexts field, ∀ line ∈ (Text.sourceLines raw.toList).tail,
                star <+: line) :=
  ⟨isClosedOnce_textAbove_iff field type,
    _, sourceLines_textAbove field type, star_prefix_innerLines_iff field⟩

/-- A type that holds the end of a comment ends the comment early. -/
theorem not_isClosedOnce_rawTag :
    ¬IsClosedOnce (textAbove
      (memberLines { collection := "posts", field := "status", typeTag := "*/ x" } "string")) := by
  rw [isClosedOnce_textAbove_iff]
  intro closed
  exact absurd (closed "*/ x" (by decide)) (by decide)

end Typescribe.Declaration
