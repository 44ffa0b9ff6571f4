import Typescribe.Declaration.Interface
import Typescribe.Proofs.Declaration.Atomic
import Typescribe.Proofs.Declaration.Comment
import Typescribe.Proofs.Naming.ClassName
import Typescribe.Proofs.Naming.PropertyKey

/-!
This module contains a reader of interfaces and what it reads of a written one. Lines end at line
feeds only. The header names the interface; each member stands behind an empty line and a comment,
which goes on to the first mark that ends it.
-/

namespace Typescribe.Declaration

structure Declared where
  keyword : String
  name : String
  members : List (String × String)
deriving DecidableEq, Repr

def readMemberLine? (line : List Char) : Option (String × String) := do
  let key ← Text.behind? [' ', ' '] line
  let (name, rest) ← Naming.readKey? key
  let type ← Text.behind? [':', ' '] rest
  if type.getLast? = some ';' then some (name, String.ofList type.dropLast) else none

/-- Reads an empty line, a comment and the line of a member. Gives the member and the rest. -/
def readMember? (cs : List Char) : Option ((String × String) × List Char) := do
  let comment ← Text.behind? "\n  /**".toList cs
  let behind ← behindCommentEnd? comment
  let lines ← Text.behind? ['\n'] behind
  let (line, rest) ← Text.cutAt '\n' lines
  let member ← readMemberLine? line
  return (member, rest)

def readMembers? (cs : List Char) : Option (List (String × String)) :=
  Text.readAll? readMember? ['}', '\n'] cs

/-- Reads the first line of an interface: its keyword and its name. Gives them and the rest. -/
def readHeader? (cs : List Char) : Option ((String × String) × List Char) := do
  let (header, rest) ← Text.cutAt '\n' cs
  match Text.splitAt ' ' header with
  | [keyword, word, name, brace] =>
    if word = "interface".toList ∧ brace = ['{'] then
      some ((String.ofList keyword, String.ofList name), rest)
    else none
  | _ => none

def readInterface? (source : String) : Option Declared := do
  let ((keyword, name), rest) ← readHeader? source.toList
  let members ← readMembers? rest
  return ⟨keyword, name, members⟩

def unlines (lines : List String) : List Char :=
  lines.flatMap fun line => line.toList ++ ['\n']

theorem unlines_cons (line : String) (lines : List String) :
    unlines (line :: lines) = line.toList ++ '\n' :: unlines lines := by
  simp [unlines]

theorem unlines_append (front back : List String) :
    unlines (front ++ back) = unlines front ++ unlines back :=
  List.flatMap_append

theorem toList_linesText {lines : List String} (h : lines ≠ []) :
    (linesText lines).toList = unlines lines := by
  induction lines with
  | nil => exact absurd rfl h
  | cons line lines ih =>
    by_cases last : lines = []
    · simp [last, linesText, unlines]
    · have rest := ih last
      rw [linesText, String.toList_append] at rest
      rw [linesText, String.intercalate_cons_of_ne_nil last, unlines_cons, ← rest]
      simp

/-- A field whose comment and whose line can be told apart when they are read. -/
structure IsReadable (field : Field) : Prop where
  typeTag : Text.occursIn "*/".toList field.typeTag.toList = false
  columnType : ∀ type, field.columnType = some type →
    Text.occursIn "*/".toList type.toList = false
  name : ¬Naming.IsFedIdentifier field.field

theorem IsReadable.columnTypeText {field : Field} (h : IsReadable field) :
    Endless (columnTypeText field).toList := by
  have missing : Endless "no column".toList := endless_iff_occursIn.mpr (by decide)
  unfold Declaration.columnTypeText
  split
  · next type given =>
    split
    · exact endless_iff_occursIn.mpr (h.columnType type given)
    · exact missing
  · exact missing

theorem endless_unlines {lines : List String} (h : ∀ line ∈ lines, Endless line.toList) :
    Endless (unlines lines) := by
  induction lines with
  | nil => exact List.IsChain.nil
  | cons line lines ih =>
    rw [unlines_cons]
    apply (h line List.mem_cons_self).append_cons _ (by decide) (by decide)
    exact ih fun l hl => h l (List.mem_cons_of_mem _ hl)

def innerLines (field : Field) : List String :=
  (noteLines (noteText field).toList).map commentLine
    ++ ["   *", "   * Type in directus: " ++ field.typeTag,
      "   * Type in database: " ++ columnTypeText field]

theorem commentLines_eq (field : Field) :
    commentLines field = "  /**" :: innerLines field ++ ["   */"] := by
  simp [commentLines, innerLines]

theorem endless_of_mem_innerLines {field : Field} (tag : Endless field.typeTag.toList)
    (column : Endless (columnTypeText field).toList) :
    ∀ line ∈ innerLines field, Endless line.toList := by
  intro line hl
  have labelled : ∀ label ∈ ["   * Type in directus: ", "   * Type in database: "],
      ∀ text : String, Endless text.toList → Endless (label ++ text).toList := by
    intro label hlabel text ht
    have start : Endless label.toList ∧ label.toList.getLast? = some ' ' := by
      have both : ∀ label ∈ ["   * Type in directus: ", "   * Type in database: "],
          Text.occursIn ['*', '/'] label.toList = false ∧ label.toList.getLast? = some ' ' := by
        decide
      exact ⟨endless_iff_occursIn.mpr (both label hlabel).1, (both label hlabel).2⟩
    rw [String.toList_append]
    exact start.1.append ht (by simp [start.2])
  simp only [innerLines, List.mem_append, List.mem_map, List.mem_cons, List.not_mem_nil,
    or_false] at hl
  rcases hl with ⟨note, hn, rfl⟩ | rfl | rfl | rfl
  · exact endless_commentLine (endless_of_mem_noteLines hn)
  · exact endless_iff_occursIn.mpr (by decide)
  · exact labelled _ (by simp) _ tag
  · exact labelled _ (by simp) _ column

def memberLine (field : Field) (type : String) : List Char :=
  [' ', ' '] ++ ((Naming.propertyKey field.field).toList ++ ([':', ' '] ++ (type.toList ++ [';'])))

theorem readMemberLine?_memberLine {field : Field} (h : IsReadable field) (type : String) :
    readMemberLine? (memberLine field type) = some (field.field, type) := by
  have key := Naming.readKey?_propertyKey h.name (' ' :: (type.toList ++ [';']))
  have after : Text.behind? [':', ' '] (':' :: ' ' :: (type.toList ++ [';']))
      = some (type.toList ++ [';']) := Text.behind?_append [':', ' '] _
  unfold readMemberLine? memberLine
  rw [Text.behind?_append, Option.bind_eq_bind, Option.bind_some, List.cons_append,
    List.singleton_append, key, Option.bind_eq_bind, Option.bind_some]
  simp only [after, Option.bind_some]
  simp

theorem newline_not_mem_propertyKey {name : String} (h : ¬Naming.IsFedIdentifier name) :
    '\n' ∉ (Naming.propertyKey name).toList := by
  unfold Naming.propertyKey
  split
  · next line =>
    have identifier := (Naming.isIdentifierLine_iff.mp line).resolve_right h
    intro hn
    exact absurd (Naming.isIdentifierRest_of_isIdentifier identifier _ hn) (by decide)
  · exact newline_not_mem_quote name

theorem newline_not_mem_memberLine {field : Field} (h : IsReadable field) {type : String}
    (line : '\n' ∉ type.toList) : '\n' ∉ memberLine field type := by
  simp [memberLine, newline_not_mem_propertyKey h.name, line]

theorem unlines_lines (member : Member) :
    unlines member.lines
      = "\n  /**".toList ++ ('\n' :: unlines (innerLines member.field) ++ [' ', ' ', ' ']
        ++ '*' :: '/' :: (['\n'] ++ (memberLine member.field member.type ++ ['\n']))) := by
  simp [Member.lines, memberLines, commentLines_eq, memberLine, unlines]

theorem readMember?_unlines_lines {member : Member} (h : IsReadable member.field)
    (line : '\n' ∉ member.type.toList) (rest : List Char) :
    readMember? (unlines member.lines ++ rest)
      = some ((member.field.field, member.type), rest) := by
  have inner : Endless ('\n' :: unlines (innerLines member.field) ++ [' ', ' ', ' ']) := by
    have tag := endless_iff_occursIn.mpr h.typeTag
    have lines := endless_unlines (endless_of_mem_innerLines tag h.columnTypeText)
    have start : Endless ['\n'] := List.isChain_singleton _
    have indent : Endless [' ', ' ', ' '] := endless_iff_occursIn.mpr (by decide)
    exact (start.append lines (by simp)).append indent (by simp)
  -- The first mark that ends a comment is therefore the one that the writer has put there.
  have comment := behindCommentEnd?_append inner
    (['\n'] ++ (memberLine member.field member.type ++ '\n' :: rest))
  have cut := Text.cutAt_append_cons (newline_not_mem_memberLine h line) rest
  have whole : unlines member.lines ++ rest
      = "\n  /**".toList ++ ('\n' :: unlines (innerLines member.field) ++ [' ', ' ', ' ']
        ++ '*' :: '/' :: (['\n'] ++ (memberLine member.field member.type ++ '\n' :: rest))) := by
    rw [unlines_lines]
    simp
  rw [whole]
  unfold readMember?
  simp only [Text.behind?_append, Option.bind_eq_bind, Option.bind_some, comment, cut,
    readMemberLine?_memberLine h]
  rfl

theorem readMembers?_unlines {members : List Member} (h : ∀ m ∈ members, IsReadable m.field)
    (line : ∀ m ∈ members, '\n' ∉ m.type.toList) :
    readMembers? (unlines (members.flatMap Member.lines) ++ ['}', '\n'])
      = some (members.map fun m => (m.field.field, m.type)) := by
  have texts : unlines (members.flatMap Member.lines)
      = members.flatMap fun m => unlines m.lines := List.flatMap_assoc
  rw [readMembers?, texts]
  apply Text.readAll?_flatMap
  · intro member _
    rw [unlines_lines]
    simp
  · intro member _ rest
    rw [unlines_lines]
    simp
  · intro member hm rest
    exact readMember?_unlines_lines (h member hm) (line member hm) rest

theorem readHeader?_append {keyword : String} (hk : ' ' ∉ keyword.toList)
    (line : '\n' ∉ keyword.toList) (id : String) (rest : List Char) :
    readHeader? ((keyword ++ " interface " ++ Naming.className id ++ " \x7b").toList
        ++ '\n' :: rest)
      = some ((keyword, Naming.className id), rest) := by
  have name : ∀ c ∈ (Naming.className id).toList, Naming.isSafe c := Naming.isSafe_of_mem_className
  have space : ' ' ∉ (Naming.className id).toList := fun h => absurd (name _ h) (by decide)
  have newline : '\n' ∉ (Naming.className id).toList := fun h => absurd (name _ h) (by decide)
  have words : ' ' ∉ "interface".toList ∧ '\n' ∉ "interface".toList := by decide
  have header : (keyword ++ " interface " ++ Naming.className id ++ " \x7b").toList
      = keyword.toList ++ ' ' :: ("interface".toList ++ ' ' :: ((Naming.className id).toList
        ++ ' ' :: ['{'])) := by simp
  have single : '\n' ∉ (keyword ++ " interface " ++ Naming.className id ++ " \x7b").toList := by
    rw [header]
    simp [line, newline]
  have cut := Text.cutAt_append_cons single rest
  have parts : Text.splitAt ' ' (keyword ++ " interface " ++ Naming.className id ++ " \x7b").toList
      = [keyword.toList, "interface".toList, (Naming.className id).toList, ['{']] := by
    rw [header, Text.splitAt_append_cons hk, Text.splitAt_append_cons words.1,
      Text.splitAt_append_cons space, Text.splitAt_of_not_mem (by decide)]
  unfold readHeader?
  rw [cut, Option.bind_eq_bind, Option.bind_some]
  simp only [parts]
  simp

theorem not_mem_keyword (config : Config) {c : Char} (h : c.isAlpha = false) :
    c ∉ config.keyword.toList := by
  have letters : ∀ d ∈ config.keyword.toList, d.isAlpha := by
    unfold Config.keyword
    cases config.mode <;> exact Text.forall_mem_of_all rfl
  intro hc
  rw [letters c hc] at h
  cases h

theorem readHeader?_source (config : Config) (collection : Collection) (members : List Member) :
    readHeader? (Interface.ofMembers config collection members).source.toList
      = some ((config.keyword, Naming.className collection.collection),
          unlines (members.flatMap Member.lines) ++ ['}', '\n']) := by
  rw [← readHeader?_append (not_mem_keyword config rfl) (not_mem_keyword config rfl)]
  simp only [Interface.ofMembers]
  rw [toList_linesText (by simp), List.cons_append, unlines_cons, unlines_append]
  rfl

theorem readInterface?_source {config : Config} {collection : Collection} {members : List Member}
    (h : ∀ m ∈ members, IsReadable m.field) (line : ∀ m ∈ members, '\n' ∉ m.type.toList) :
    readInterface? (Interface.ofMembers config collection members).source
      = some ⟨config.keyword, Naming.className collection.collection,
          members.map fun m => (m.field.field, m.type)⟩ := by
  unfold readInterface?
  rw [readHeader?_source, Option.bind_eq_bind, Option.bind_some]
  simp only [readMembers?_unlines h line]
  rfl

end Typescribe.Declaration
