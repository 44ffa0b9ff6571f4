import Typescribe.Proofs.Declaration.CommentText
import Typescribe.Proofs.Declaration.Imports
import Typescribe.Proofs.Declaration.Interface

/-!
This module contains the lines of a file that import interfaces, wherever they stand. Some texts stand
in a member as they are, so that each of their lines but the first is a line of the file; these can
look like imports, and all other lines below the head of a file cannot.
-/

namespace Typescribe.Declaration

variable {σ : Type} {config : Config} {schema : Schema} {choices : ChoiceSource σ}
  {collection : Collection} {field : Field} {s t : Session σ}

/-- A line that imports something, whatever that is. -/
def asImport? (line : List Char) : Option String :=
  if Text.startsWith "import".toList line then some (String.ofList line) else none

/-- The lines of a text that are imports. A line ends with a line feed, as the generated ones do. -/
def importsIn (cs : List Char) : List String :=
  (Text.splitAt '\n' cs).filterMap asImport?

/-- The lines of a text behind its first one that are imports. -/
def strayImports (text : String) : List String :=
  (Text.splitAt '\n' text.toList).tail.filterMap asImport?

/-- The texts whose lines are lines of a member: those in its comment, and its type. -/
def carriedTexts (member : Member) : List String :=
  rawTexts member.field ++ [member.type ++ ";"]

/-! ### Lines of texts -/

theorem asImport?_of_head {line : List Char} (h : line.head? ≠ some 'i') :
    asImport? line = none := by
  have other : Text.startsWith "import".toList line = false := by
    cases line with
    | nil => rfl
    | cons c line =>
      have start : "import".toList = 'i' :: "mport".toList := rfl
      have different : ('i' == c) = false := beq_false_of_ne fun same => h (by rw [← same]; rfl)
      rw [Text.startsWith, start, List.isPrefixOf_cons_cons, different, Bool.false_and]
  rw [asImport?, other]
  rfl

theorem asImport?_importLine (name : String) :
    asImport? (importLine name).toList = some (importLine name) := by
  have start : Text.startsWith "import".toList (importLine name).toList := by
    have word : "import".toList <+: "import type \x7b ".toList := ⟨" type \x7b ".toList, rfl⟩
    rw [toList_importLine]
    exact List.isPrefixOf_iff_prefix.mpr (word.trans (List.prefix_append _ _))
  rw [asImport?, if_pos start, String.ofList_toList]

theorem importsIn_append_newline (front back : List Char) :
    importsIn (front ++ '\n' :: back) = importsIn front ++ importsIn back := by
  rw [importsIn, Text.splitAt_append_separator, List.filterMap_append, importsIn, importsIn]

theorem importsIn_unlines_append (lines : List String) (rest : List Char) :
    importsIn (unlines lines ++ rest)
      = lines.flatMap (fun line => importsIn line.toList) ++ importsIn rest := by
  induction lines with
  | nil => rfl
  | cons line lines ih =>
    rw [unlines_cons, List.append_assoc, List.cons_append, importsIn_append_newline, ih,
      List.flatMap_cons, List.append_assoc]

theorem importsIn_linesText {lines : List String} (h : lines ≠ []) :
    importsIn (linesText lines).toList = lines.flatMap fun line => importsIn line.toList := by
  have all := importsIn_unlines_append lines []
  rw [List.append_nil, ← toList_linesText h] at all
  exact all.trans (List.append_nil _)

theorem importsIn_eq_nil {line : List Char} (single : '\n' ∉ line) (start : line.head? ≠ some 'i') :
    importsIn line = [] := by
  rw [importsIn, Text.splitAt_of_not_mem single, List.filterMap_cons, asImport?_of_head start]
  rfl

/-- Behind a label the first line of a text imports nothing. -/
theorem importsIn_labelled (label : List Char) (single : '\n' ∉ label) {first : Char}
    (start : label.head? = some first) (other : first ≠ 'i') (text : String) :
    importsIn (label ++ text.toList) = strayImports text := by
  obtain ⟨line, lines, split⟩ := List.exists_cons_of_ne_nil (Text.splitAt_ne_nil '\n' text.toList)
  have head : (label ++ line).head? ≠ some 'i' := by
    rw [List.head?_append_of_ne_nil _ (by rintro rfl; cases start), start]
    simpa using other
  rw [importsIn, strayImports, Text.splitAt_append_of_not_mem single, split, List.modifyHead_cons,
    List.filterMap_cons, asImport?_of_head head]
  rfl

theorem strayImports_eq_nil {text : String} (h : '\n' ∉ text.toList) : strayImports text = [] := by
  rw [strayImports, Text.splitAt_of_not_mem h]
  rfl

/-- The colon behind a key stands on the same line, or first on the next one. -/
theorem importsIn_keyed (name text : String) :
    importsIn ("  " ++ Naming.propertyKey name ++ ": " ++ text).toList = strayImports text := by
  by_cases fed : Naming.IsFedIdentifier name
  · have line := Naming.isIdentifierLine_iff.mpr (.inr fed)
    obtain ⟨identifier, h, whole⟩ := fed
    have single : '\n' ∉ identifier := fun hn =>
      absurd (Naming.isIdentifierRest_of_isIdentifier h '\n' hn) (by decide)
    have lines : ("  " ++ Naming.propertyKey name ++ ": " ++ text).toList
        = ([' ', ' '] ++ identifier) ++ '\n' :: ([':', ' '] ++ text.toList) := by
      rw [Naming.propertyKey, if_pos line]
      simp [whole]
    rw [lines, importsIn_append_newline, importsIn_eq_nil (by simpa using single) (by simp),
      importsIn_labelled _ (by decide) rfl (by decide), List.nil_append]
  · have line := (Naming.isKeyOf_propertyKey_iff.mpr fed).line
    have single : '\n' ∉ (Naming.propertyKey name).toList := fun hn => absurd (line _ hn) (by decide)
    have label : ("  " ++ Naming.propertyKey name ++ ": " ++ text).toList
        = ([' ', ' '] ++ (Naming.propertyKey name).toList ++ [':', ' ']) ++ text.toList := by
      simp
    rw [label]
    exact importsIn_labelled _ (by simpa using single) rfl (by decide) text

/-! ### Lines of the parts of a file -/

theorem flatMap_importsIn_commentLines (field : Field) :
    (commentLines field).flatMap (fun line => importsIn line.toList)
      = (rawTexts field).flatMap strayImports := by
  have notes : ∀ line ∈ (noteLines (noteText field).toList).map commentLine,
      importsIn line.toList = [] := by
    intro line hl
    obtain ⟨note, hn, rfl⟩ := List.mem_map.mp hl
    obtain ⟨rest, starred⟩ := star_prefix_commentLine note
    have single : '\n' ∉ (commentLine note).toList := by
      intro newline
      have start : ∀ c ∈ "   * ".toList, Text.isLineBreak c = false := Text.forall_mem_of_all rfl
      rw [commentLine, String.toList_ofList] at newline
      cases List.mem_append.mp ((trimEnd_front _).subset newline) with
      | inl hc => exact absurd (start _ hc) (by decide)
      | inr hc => exact absurd (isLineBreak_of_mem_noteLines hn _ hc) (by decide)
    exact importsIn_eq_nil single (by rw [← starred]; simp [star])
  have plain : ∀ line ∈ ["  /**", "   *", "   */"], importsIn line.toList = [] := by decide
  have tag := importsIn_labelled "   * Type in directus: ".toList (by decide) rfl
    (by decide) field.typeTag
  have column := importsIn_labelled "   * Type in database: ".toList (by decide) rfl
    (by decide) (columnTypeText field)
  rw [commentLines, List.flatMap_append, List.flatMap_cons, List.flatMap_eq_nil_iff.mpr notes,
    plain _ (by simp)]
  simp only [List.flatMap_cons, List.flatMap_nil, String.toList_append, tag, column, rawTexts,
    plain "   *" (by simp), plain "   */" (by simp), List.nil_append, List.append_nil]

theorem flatMap_importsIn_lines (member : Member) :
    member.lines.flatMap (fun line => importsIn line.toList)
      = (carriedTexts member).flatMap strayImports := by
  have keyed := importsIn_keyed member.field.field (member.type ++ ";")
  rw [← String.append_assoc] at keyed
  rw [Member.lines, memberLines, List.flatMap_cons, List.flatMap_append,
    flatMap_importsIn_commentLines, List.flatMap_singleton, keyed, carriedTexts,
    List.flatMap_append, List.flatMap_singleton]
  rfl

theorem keyword_eq (config : Config) : config.keyword = "export" ∨ config.keyword = "declare" := by
  unfold Config.keyword
  cases config.mode
  · exact .inl rfl
  · exact .inr rfl

theorem importsIn_keyword (config : Config) (rest : String) (single : '\n' ∉ rest.toList) :
    importsIn (config.keyword ++ rest).toList = [] := by
  rw [String.toList_append]
  rcases keyword_eq config with keyword | keyword
  · rw [keyword]
    exact importsIn_eq_nil (by simpa using single) (by simp)
  · rw [keyword]
    exact importsIn_eq_nil (by simpa using single) (by simp)

theorem importsIn_source (config : Config) (collection : Collection) (members : List Member) :
    importsIn (Interface.ofMembers config collection members).source.toList
      = members.flatMap fun member => (carriedTexts member).flatMap strayImports := by
  have name := (isPlainName_className collection.collection).not_mem (c := '\n') (by decide)
  have header := importsIn_keyword config (" interface "
    ++ (Naming.className collection.collection ++ " \x7b")) (by simp [name])
  rw [← String.append_assoc, ← String.append_assoc] at header
  have closing : importsIn "\x7d".toList = [] := by decide
  simp only [Interface.ofMembers]
  rw [importsIn_linesText (by simp), List.flatMap_append, List.flatMap_cons, header,
    List.flatMap_assoc, List.flatMap_singleton, closing, List.nil_append, List.append_nil]
  simp only [flatMap_importsIn_lines]

theorem importsIn_indexSource (config : Config) (collections : List Collection) :
    importsIn (indexSource config collections).toList = [] := by
  have header := importsIn_keyword config " type Collections = \x7b" (by decide)
  have closing : importsIn "\x7d".toList = [] := by decide
  have entries : ∀ line ∈ collections.map indexEntry, importsIn line.toList = [] := by
    intro line hl
    obtain ⟨collection, -, rfl⟩ := List.mem_map.mp hl
    have name := (isPlainName_className collection.collection).not_mem (c := '\n') (by decide)
    have keyed := importsIn_keyed collection.collection
      (Naming.className collection.collection ++ (if collection.singleton then "" else "[]") ++ ";")
    rw [← String.append_assoc, ← String.append_assoc] at keyed
    rw [indexEntry, keyed]
    apply strayImports_eq_nil
    cases collection.singleton <;> simp [name]
  rw [indexSource, importsIn_linesText (by simp), List.flatMap_append, List.flatMap_cons, header,
    List.flatMap_eq_nil_iff.mpr entries, List.flatMap_singleton, closing]
  rfl

theorem importsIn_helperSource (config : Config) :
    importsIn (helperSource config).toList = [] := by
  have names := importsIn_keyword config " type CollectionName = keyof Collections;"
    (by decide)
  have item := importsIn_keyword config
    " type ItemIn<CollectionKey extends CollectionName> =" (by decide)
  have others : ∀ line ∈ ["",
      "    Collections[CollectionKey] extends (infer Item extends object)[]", "        ? Item",
      "        : Collections[CollectionKey];"], importsIn line.toList = [] := by decide
  rw [helperSource, importsIn_linesText (by simp)]
  simp only [List.flatMap_cons, List.flatMap_nil, names, item, List.append_nil, List.nil_append]
  rw [others _ (by simp), others _ (by simp), others _ (by simp), others _ (by simp)]
  rfl

theorem importsIn_withImports (config : Config) {names : List String}
    (h : ∀ name ∈ names, IsPlainName name) (source : String) :
    importsIn (withImports (importLines config names) source).toList
      = importLines config names ++ importsIn source.toList := by
  have each : ∀ line ∈ names.map importLine, importsIn line.toList = [line] := by
    intro line hl
    obtain ⟨name, hn, rfl⟩ := List.mem_map.mp hl
    rw [importsIn, Text.splitAt_of_not_mem (newline_not_mem_importLine (h name hn)),
      List.filterMap_cons, asImport?_importLine]
    rfl
  unfold importLines
  cases config.mode with
  | ambient => rfl
  | exported =>
    by_cases none : names = []
    · subst none
      rfl
    · have empty : importsIn ('\n' :: source.toList) = importsIn source.toList :=
        importsIn_append_newline [] source.toList
      rw [toList_withImports none, importsIn_unlines_append, List.flatMap_congr each,
        List.flatMap_singleton', empty]

theorem importsIn_intercalate (sources : List String) :
    importsIn (String.intercalate "\n" sources).toList
      = sources.flatMap fun source => importsIn source.toList := by
  induction sources with
  | nil => rfl
  | cons source sources ih =>
    by_cases last : sources = []
    · rw [last, String.intercalate_singleton, List.flatMap_singleton]
    · rw [String.intercalate_cons_of_ne_nil last, String.toList_append, String.toList_append,
        List.append_assoc, show "\n".toList = ['\n'] from rfl, List.singleton_append,
        importsIn_append_newline, ih, List.flatMap_cons]

/-! ### Types on one line -/

theorem newline_not_mem_scalarType? {jsonType tag type : String} (json : '\n' ∉ jsonType.toList)
    (h : scalarType? jsonType tag = some type) : '\n' ∉ type.toList := by
  unfold scalarType? at h
  split at h
  · exact Option.some.inj h ▸ json
  · obtain ⟨front, back, table, -⟩ := List.lookup_eq_some_iff.mp h
    have types : ∀ entry ∈ scalarTypes, '\n' ∉ entry.2.toList := by decide
    exact types (tag, type) (by rw [table]; simp)

theorem newline_not_mem_keyType {jsonType key : String} {relation : Relation} {names : List String}
    (json : '\n' ∉ jsonType.toList) (hn : ∀ name ∈ names, IsMember name)
    (h : keyType jsonType field relation names = .ok key) : '\n' ∉ key.toList := by
  unfold keyType at h
  split at h
  · split at h
    · cases h
      exact ((hn _ (by simp)).indexed _).line
    · exact newline_not_mem_scalarType? json (fieldScalarType_eq_ok.mp h)
  · exact newline_not_mem_scalarType? json (fieldScalarType_eq_ok.mp h)

theorem newline_not_mem_of_composed {references parts : List String}
    (json : '\n' ∉ config.jsonType.toList)
    (h : Composed config schema choices collection field s references parts) :
    ∀ part ∈ parts, '\n' ∉ part.toList := by
  intro part hp
  cases h with
  | toOne column declared single targets bare =>
    have names := isMember_of_mem_targetNames targets
    cases List.mem_append.mp hp with
    | inl hp => exact (names part hp).line
    | inr hp => exact List.mem_singleton.mp hp ▸ newline_not_mem_keyType json names bare
  | toMany column declared several targets bare =>
    have names := isMember_of_mem_targetNames targets
    rcases List.mem_cons.mp hp with hp | hp
    · exact hp ▸ (isMember_arrayOf (targetNames_ne_nil targets) names).line
    · rw [List.mem_singleton.mp hp]
      simpa using newline_not_mem_keyType json names bare
  | reverse shown declared target =>
    rw [List.mem_singleton.mp hp]
    simpa using (isMember_of_targetName target).line
  | oneChoice plain looked given single written =>
    obtain ⟨choice, -, literal⟩ := exists_of_mem_right written hp
    exact (IsMember.choiceLiteral literal).line
  | @manyChoices definition literals _ plain looked given several written =>
    have members : ∀ literal ∈ literals, IsMember literal := by
      intro literal hl
      obtain ⟨choice, -, written⟩ := exists_of_mem_right written hl
      exact IsMember.choiceLiteral written
    rw [List.mem_singleton.mp hp]
    simpa using newline_not_mem_intercalate members
  | scalar plain looked empty tagged =>
    exact List.mem_singleton.mp hp ▸ newline_not_mem_scalarType? json tagged

theorem newline_not_mem_memberType {resolution : Except FieldFault TypeRef}
    (json : '\n' ∉ config.jsonType.toList)
    (h : Step.Yields (resolveField config schema choices collection field) s resolution t) :
    '\n' ∉ (memberType config field resolution).toList := by
  cases resolution with
  | error fault =>
    unfold memberType sentinel
    simp only
    split
    · split <;> decide
    · decide
  | ok type =>
    obtain ⟨parts, composed, expression⟩ := composed_of_resolveField h
    have line : '\n' ∉ type.expression.toList := by
      rw [expression]
      intro newline
      obtain ⟨part, hp, hn⟩ := mem_of_mem_intercalate newline (by decide) (by decide)
      exact newline_not_mem_of_composed json composed part hp hn
    unfold memberType withNull
    simp only
    split
    · split
      · exact line
      · simpa using line
    · exact line

/-- Without line feeds in the texts of its fields and in the type of JSON data, nothing is stray. -/
theorem strayImports_eq_nil_of_resolvedInTurn {fields : List Resolved}
    (json : '\n' ∉ config.jsonType.toList)
    (raw : ∀ r ∈ fields, ∀ text ∈ rawTexts r.field, '\n' ∉ text.toList)
    (h : ResolvedInTurn config schema choices collection s fields t) :
    ∀ member ∈ membersOf config fields, ∀ text ∈ carriedTexts member, strayImports text = [] := by
  induction h with
  | nil => simp [membersOf]
  | cons head kept tail ih =>
    have line := newline_not_mem_memberType json head
    intro member hm text ht
    rcases List.mem_cons.mp hm with rfl | hm
    · apply strayImports_eq_nil
      rcases List.mem_append.mp ht with ht | ht
      · exact raw _ List.mem_cons_self text ht
      · rw [List.mem_singleton.mp ht]
        simpa using line
    · exact ih (fun r hr => raw r (List.mem_cons_of_mem _ hr)) member hm text ht

end Typescribe.Declaration
