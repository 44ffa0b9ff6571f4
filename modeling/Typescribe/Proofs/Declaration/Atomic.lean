import Typescribe.Declaration.Enum
import Typescribe.Declaration.Scalar
import Typescribe.Proofs.Declaration.Union
import Typescribe.Proofs.Decimal.Layout
import Typescribe.Proofs.Json.Reader
import Typescribe.Proofs.Naming.ClassName
import Typescribe.Proofs.Step

/-!
This module contains the texts that type expressions are made of: names, quoted texts, literals of
choices and scalar types. None of them is torn apart by the scan of a union, whatever it quotes.
-/

namespace Typescribe.Declaration

open Position

def Position.quoted (quote : Char) (depth : Nat) : Position := ⟨depth, some quote, false⟩

/-- A text that does not end the quotes it stands in. -/
def Quotable (quote : Char) (cs : List Char) : Prop :=
  ∀ depth, (quoted quote depth).cross? cs = some (quoted quote depth)

namespace Quotable

variable {quote : Char}

theorem nil : Quotable quote [] := fun _ => rfl

theorem append {front back : List Char} (hf : Quotable quote front) (hb : Quotable quote back) :
    Quotable quote (front ++ back) := by
  intro depth
  rw [cross?_append, hf depth]
  exact hb depth

theorem flatMap {f : Char → List Char} (h : ∀ c, Quotable quote (f c)) (cs : List Char) :
    Quotable quote (cs.flatMap f) := by
  induction cs with
  | nil => exact nil
  | cons c cs ih =>
    rw [List.flatMap_cons]
    exact (h c).append ih

theorem singleton {c : Char} (hq : c ≠ quote) (hb : c ≠ '\\') : Quotable quote [c] := by
  intro depth
  simp [cross?, separates, quoted, next, hq, hb]

theorem escaped (c : Char) : Quotable quote ['\\', c] := by
  intro depth
  simp [cross?, separates, quoted, next]

theorem of_isAlphanum {cs : List Char} (hq : quote.isAlphanum = false)
    (h : ∀ c ∈ cs, c.isAlphanum) : Quotable quote cs := by
  induction cs with
  | nil => exact nil
  | cons c cs ih =>
    have hc := h c List.mem_cons_self
    have first : Quotable quote [c] := by
      apply singleton
      · rintro rfl
        simp [hc] at hq
      · rintro rfl
        exact absurd hc (by decide)
    exact first.append (ih fun d hd => h d (List.mem_cons_of_mem _ hd))

theorem solid {cs : List Char} (hq : quote = '\'' ∨ quote = '"') (h : Quotable quote cs) :
    Solid (quote :: cs ++ [quote]) := by
  intro depth
  have opening : (level depth).next quote = quoted quote depth := by
    rcases hq with rfl | rfl <;> rfl
  have closing : (quoted quote depth).next quote = level depth := by
    rcases hq with rfl | rfl <;> rfl
  have apart : ∀ p : Position, p.separates quote = false := by
    rcases hq with rfl | rfl <;> simp [separates]
  simp [cross?_append, cross?, apart, opening, h depth, closing]

end Quotable

theorem quotable_escapeLiteralChar (c : Char) : Quotable '\'' (Naming.escapeLiteralChar c) := by
  unfold Naming.escapeLiteralChar
  split
  · exact .escaped _
  · exact .escaped _
  · exact .escaped _
  · exact .escaped _
  · next hb hq _ _ => exact .singleton hq hb

theorem quotable_unicodeEscape (n : Nat) : Quotable '"' (Json.unicodeEscape n) := by
  have digits : Quotable '"' (Text.hex 4 n) :=
    .of_isAlphanum (by decide) Text.isAlphanum_of_mem_hex
  exact (Quotable.escaped 'u').append digits

theorem Quotable.of_escapedAs {c : Char} {cs : List Char} (h : Json.EscapedAs c cs) :
    Quotable '"' cs := by
  cases h with
  | letter => exact .escaped _
  | plain quote backslash => exact .singleton quote backslash
  | unit => exact quotable_unicodeEscape _
  | pair => exact (quotable_unicodeEscape _).append (quotable_unicodeEscape _)

theorem newline_not_mem_unicodeEscape (n : Nat) : '\n' ∉ Json.unicodeEscape n := by
  have digits : '\n' ∉ Text.hex 4 n := fun h => absurd (Text.isAlphanum_of_mem_hex _ h) (by decide)
  simp [Json.unicodeEscape, digits]

theorem newline_not_mem_of_escapedAs {c : Char} {cs : List Char} (h : Json.EscapedAs c cs) :
    '\n' ∉ cs := by
  cases h with
  | @letter letter known =>
    have other : '\n' ≠ letter := by
      rintro rfl
      cases known
    simp [other]
  | plain quote backslash printable =>
    have other : '\n' ≠ c := by
      rintro rfl
      exact absurd printable (by decide)
    simpa using other
  | unit => exact newline_not_mem_unicodeEscape _
  | pair => simp [newline_not_mem_unicodeEscape]

theorem newline_not_mem_quote (s : String) : '\n' ∉ (Json.quote s).toList := by
  rw [Json.quote, String.toList_ofList]
  simp [newline_not_mem_of_escapedAs (Json.escapedAs_escapeChar _)]

theorem solid_quote (s : String) : Solid (Json.quote s).toList := by
  rw [Json.quote, String.toList_ofList]
  exact (Quotable.flatMap (fun c => .of_escapedAs (Json.escapedAs_escapeChar c)) s.toList).solid (.inr rfl)

theorem Atomic.of_forall {expression : String} {test : Char → Prop}
    (apart : ∀ c, test c → c ∉ marks ∧ Text.isBlank c = false) (nonempty : expression ≠ "")
    (h : ∀ c ∈ expression.toList, test c) : Atomic expression where
  solid := Solid.of_not_marks fun c hc => (apart c (h c hc)).1
  trimmed := Text.IsTrimmed.of_forall (by simpa using nonempty) fun c hc => (apart c (h c hc)).2

/-- An atomic expression on one line that is not the word `null`. -/
structure IsMember (expression : String) : Prop where
  atomic : Atomic expression
  notNull : expression ≠ "null"
  line : '\n' ∉ expression.toList

theorem not_mark_of_isSafe {c : Char} (h : Naming.isSafe c) :
    c ∉ marks ∧ Text.isBlank c = false := by
  have small : c.toNat < 128 := by
    simp only [Naming.isSafe, Bool.or_eq_true, decide_eq_true_eq] at h
    rcases h with h | rfl
    · exact Text.toNat_lt_of_isAlphanum h
    · decide
  exact Text.forall_ascii
    (P := fun c => Naming.isSafe c → c ∉ marks ∧ Text.isBlank c = false) (by decide +kernel) small h

theorem not_mark_of_isNumeric {c : Char} (h : Decimal.isNumeric c) :
    c ∉ marks ∧ Text.isBlank c = false := by
  have small : c.toNat < 128 := by
    simp only [Decimal.isNumeric, Bool.or_eq_true, List.contains_eq_mem, decide_eq_true_eq] at h
    rcases h with h | h
    · exact Text.toNat_lt_of_isAlphanum (Text.isAlphanum_of_isDigit h)
    · have all : ∀ d ∈ ['.', '-', '+', 'e', 'N', 'a', 'I', 'n', 'f', 'i', 't', 'y'],
          d.toNat < 128 := Text.forall_mem_of_all rfl
      exact all c h
  exact Text.forall_ascii
    (P := fun c => Decimal.isNumeric c → c ∉ marks ∧ Text.isBlank c = false)
    (by decide +kernel) small h

theorem IsMember.of_isNumeric {expression : String} (nonempty : expression ≠ "")
    (h : ∀ c ∈ expression.toList, Decimal.isNumeric c) : IsMember expression where
  atomic := .of_forall (fun _ => not_mark_of_isNumeric) nonempty h
  notNull := by
    rintro rfl
    exact absurd (h 'u' (by decide)) (by decide)
  line hn := absurd (h '\n' hn) (by decide)

theorem Atomic.className (id : String) : Atomic (Naming.className id) := by
  apply Atomic.of_forall (fun _ => not_mark_of_isSafe)
  · intro e
    exact (Naming.isClassName_className id).ne_nil (by simp [e])
  · exact Naming.isSafe_of_mem_className

theorem IsMember.className (id : String) : IsMember (Naming.className id) where
  atomic := .className id
  notNull e := by
    have shape := Naming.isClassName_className id
    rw [e] at shape
    have letters : "null".toList = ['n', 'u', 'l', 'l'] := rfl
    rw [letters] at shape
    cases shape with
    | letter first _ => exact absurd first (by decide)
  line hn := absurd (Naming.isSafe_of_mem_className '\n' hn) (by decide)

theorem newline_not_mem_escapeLiteralChar (c : Char) :
    '\n' ∉ Naming.escapeLiteralChar c := by
  unfold Naming.escapeLiteralChar
  split
  · decide
  · decide
  · decide
  · decide
  · next _ _ other _ => simpa using Ne.symm other

theorem IsMember.stringLiteral (s : String) : IsMember (Naming.stringLiteral s) where
  atomic :=
    { solid := by
        rw [Naming.stringLiteral, String.toList_ofList]
        exact (Quotable.flatMap quotable_escapeLiteralChar s.toList).solid (.inl rfl)
      trimmed := by
        have quote : Text.IsTrimmed ['\''] := .of_forall (by decide) (Text.forall_mem_of_all rfl)
        rw [Naming.stringLiteral, String.toList_ofList]
        exact quote.append_append quote }
  notNull e := by
    have first := congrArg (fun t => t.toList.head?) e
    rw [Naming.stringLiteral] at first
    simp at first
  line hn := by
    rw [Naming.stringLiteral, String.toList_ofList] at hn
    simp [newline_not_mem_escapeLiteralChar] at hn

theorem IsMember.writeWhole {n : Int} {literal : String} (h : Json.writeWhole n = .ok literal) :
    IsMember literal := by
  unfold Json.writeWhole at h
  split at h
  · cases h
    exact .of_isNumeric (Decimal.toString_ne_empty n) Decimal.isNumeric_of_mem_toString
  · cases h

theorem IsMember.choiceLiteral {value : Value} {literal : String}
    (h : choiceLiteral value = .ok literal) : IsMember literal := by
  unfold Declaration.choiceLiteral at h
  split at h
  · cases h
    exact .stringLiteral _
  · rw [Json.write] at h
    exact .writeWhole h
  · rw [Json.write] at h
    cases h
    exact .of_isNumeric (Decimal.json_text_ne_empty _) Decimal.isNumeric_of_mem_json_text
  · obtain ⟨text, _, rfl⟩ := map_eq_ok.mp h
    exact .stringLiteral text

theorem newline_not_mem_intercalate {parts : List String} (h : ∀ part ∈ parts, IsMember part) :
    '\n' ∉ (String.intercalate " | " parts).toList := by
  intro hn
  obtain ⟨part, hp, hn⟩ := mem_of_mem_intercalate hn (by decide) (by decide)
  exact (h part hp).line hn

/-- The type expression of a union that does not hold `null` yet. -/
structure IsUnion (parts : List String) (expression : String) : Prop where
  nonempty : parts ≠ []
  members : ∀ part ∈ parts, IsMember part
  eq : expression = String.intercalate " | " parts

namespace IsUnion

variable {parts : List String} {expression : String} (h : IsUnion parts expression)
include h

theorem unionMembers_eq : unionMembers expression = parts := by
  rw [h.eq]
  exact unionMembers_intercalate h.nonempty fun part hp => (h.members part hp).atomic

theorem notNull : "null" ∉ parts :=
  fun hp => (h.members _ hp).notNull rfl

theorem ne_empty : expression ≠ "" := by
  rintro rfl
  have members := h.unionMembers_eq
  have blank : unionMembers "" = [""] := rfl
  rw [blank] at members
  exact (h.members "" (by simp [← members])).atomic.ne_empty rfl

theorem withNull_eq : withNull expression = expression ++ " | null" := by
  apply withNull_of_not_mem
  rw [h.unionMembers_eq]
  exact h.notNull

theorem unionMembers_withNull : unionMembers (withNull expression) = parts ++ ["null"] := by
  have joined : withNull expression = String.intercalate " | " (parts ++ ["null"]) := by
    rw [h.withNull_eq, h.eq, String.intercalate_append_of_ne_nil h.nonempty (by simp)]
    simp [String.append_assoc]
  rw [joined]
  apply unionMembers_intercalate (by simp)
  intro part hpart
  rcases List.mem_append.mp hpart with hp | hp
  · exact (h.members part hp).atomic
  · rw [List.mem_singleton.mp hp]
    exact Atomic.null

theorem withNull_withNull : withNull (withNull expression) = withNull expression := by
  apply withNull_of_mem
  rw [h.unionMembers_withNull]
  exact List.mem_append_right _ List.mem_cons_self

theorem line : '\n' ∉ expression.toList := by
  rw [h.eq]
  exact newline_not_mem_intercalate h.members

end IsUnion

end Typescribe.Declaration
