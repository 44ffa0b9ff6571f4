import Typescribe.Declaration.Scalar
import Typescribe.Naming.PropertyKey
import Typescribe.Proofs.Naming.ClassName
import Typescribe.Proofs.Naming.Singular

/-!
This module contains what the name of an interface depends on: the segments of letters and digits
in the identifier of the collection, without their letter case. What stands between them, and how
often, does not matter.
-/

namespace Typescribe.Naming

/-- The maximal runs of ASCII letters and digits in a text, in their order. -/
def segments (cs : List Char) : List (List Char) :=
  (cs.splitOnP fun c => !c.isAlphanum).filter (!·.isEmpty)

def foldedSegments (id : String) : List (List Char) :=
  (segments id.toList).map (·.map Char.toLower)

section Segments

theorem segments_append_cons {c : Char} (h : c.isAlphanum = false) (front back : List Char) :
    segments (front ++ c :: back) = segments front ++ segments back := by
  unfold segments
  rw [List.splitOnP_append_cons front back (by simp [h]), List.filter_append]

theorem segments_cons {c : Char} (h : c.isAlphanum = false) (back : List Char) :
    segments (c :: back) = segments back :=
  segments_append_cons h [] back

theorem isAlphanumeric_of_mem_segments {cs segment : List Char} (h : segment ∈ segments cs) :
    IsAlphanumeric segment := by
  have inside : ∀ part ∈ cs.splitOnP fun c => !c.isAlphanum, IsAlphanumeric part := by
    clear h
    induction cs with
    | nil =>
      intro part hp c hc
      rw [List.splitOnP_nil, List.mem_singleton] at hp
      rw [hp] at hc
      cases hc
    | cons d rest ih =>
      intro part hp
      rw [List.splitOnP_cons_eq_if_modifyHead] at hp
      obtain ⟨first, others, parts⟩ :=
        List.exists_cons_of_ne_nil (List.splitOnP_ne_nil (fun c => !c.isAlphanum) rest)
      rw [parts] at hp ih
      split at hp
      · rcases List.mem_cons.mp hp with rfl | hp
        · intro c hc
          cases hc
        · exact ih part hp
      · next alphanum =>
        rw [List.modifyHead_cons] at hp
        rcases List.mem_cons.mp hp with rfl | hp
        · intro c hc
          cases List.mem_cons.mp hc with
          | inl hc => simpa [hc] using alphanum
          | inr hc => exact ih first List.mem_cons_self c hc
        · exact ih part (List.mem_cons_of_mem _ hp)
  exact inside segment (List.mem_filter.mp h).1

theorem underscore_not_alphanum : '_'.isAlphanum = false := by decide

/-- One underscore in the place of unsafe characters cuts no segment and joins none. -/
theorem segments_replaceUnsafe (cs : List Char) : segments (replaceUnsafe cs) = segments cs := by
  have go : (∀ front, segments (front ++ replaceUnsafe.go false cs) = segments (front ++ cs))
      ∧ segments (replaceUnsafe.go true cs) = segments cs := by
    induction cs with
    | nil => exact ⟨fun _ => rfl, rfl⟩
    | cons c rest ih =>
      obtain ⟨outside, inRun⟩ := ih
      unfold replaceUnsafe.go
      split
      · have same (front : List Char) := outside (front ++ [c])
        simp only [List.append_assoc, List.singleton_append] at same
        exact ⟨same, same []⟩
      · next unsafeChar =>
        have separator : c.isAlphanum = false := by
          rw [Bool.eq_false_iff]
          exact fun alphanum => unsafeChar (isSafe_of_isAlphanum alphanum)
        refine ⟨fun front => ?_, ?_⟩
        · rw [if_neg Bool.false_ne_true, segments_append_cons underscore_not_alphanum,
            segments_append_cons separator, inRun]
        · rw [if_pos rfl, segments_cons separator, inRun]
  exact go.1 []

theorem splitAt_eq_splitOnP {cs : List Char} (h : ∀ c ∈ cs, isSafe c) :
    Text.splitAt '_' cs = cs.splitOnP fun c => !c.isAlphanum := by
  induction cs with
  | nil => rfl
  | cons c rest ih =>
    have safe := h c List.mem_cons_self
    rw [Text.splitAt, List.splitOnP_cons_eq_if_modifyHead,
      ← ih fun d hd => h d (List.mem_cons_of_mem _ hd)]
    by_cases underscore : c = '_'
    · rw [if_pos underscore, if_pos (by rw [underscore]; rfl)]
    · have alphanum : c.isAlphanum := by simpa [isSafe, underscore] using safe
      rw [if_neg underscore, if_neg (by simp [alphanum])]
      rcases parts : Text.splitAt '_' rest with _ | ⟨part, parts⟩
      · exact absurd parts (Text.splitAt_ne_nil '_' rest)
      · rfl

theorem filter_parts (cs : List Char) : (parts cs).filter (!·.isEmpty) = segments cs := by
  rw [parts, splitAt_eq_splitOnP fun _ => isSafe_of_mem_replaceUnsafe, ← segments_replaceUnsafe cs]
  rfl

end Segments

theorem replaceUnsafe_of_forall {cs : List Char} (h : ∀ c ∈ cs, isSafe c) :
    replaceUnsafe cs = cs := by
  have go : replaceUnsafe.go false cs = cs := by
    induction cs with
    | nil => rfl
    | cons c rest ih =>
      rw [replaceUnsafe.go, if_pos (h c List.mem_cons_self),
        ih fun d hd => h d (List.mem_cons_of_mem _ hd)]
  exact go

theorem parts_intercalate {words : List (List Char)} (nonempty : words ≠ [])
    (h : ∀ word ∈ words, IsAlphanumeric word) : parts (List.intercalate ['_'] words) = words := by
  have noUnderscore : ∀ word ∈ words, '_' ∉ word :=
    fun word hword hc => absurd (h word hword '_' hc) (by decide)
  have safe : ∀ c ∈ List.intercalate ['_'] words, isSafe c := by
    intro c hc
    obtain rfl | ⟨word, hword, hc⟩ := Text.eq_or_exists_of_mem_intercalate hc
    · decide
    · exact isSafe_of_isAlphanum (h word hword c hc)
  rw [parts, replaceUnsafe_of_forall safe, Text.splitAt_intercalate nonempty noUnderscore]

section Singular

theorem mem_singularizeLast {words : List (List Char)} {word : List Char}
    (h : word ∈ singularizeLast words) :
    word ∈ words ∨ ∃ other ∈ words, word = singularize other := by
  induction words with
  | nil => cases h
  | cons first rest ih =>
    unfold singularizeLast at h
    split at h
    · rcases List.mem_cons.mp h with rfl | h
      · exact .inl List.mem_cons_self
      · obtain kept | ⟨other, member, singular⟩ := ih h
        · exact .inl (List.mem_cons_of_mem _ kept)
        · exact .inr ⟨other, List.mem_cons_of_mem _ member, singular⟩
    · rcases List.mem_cons.mp h with same | h
      · split at same
        · exact .inl (same ▸ List.mem_cons_self)
        · exact .inr ⟨first, List.mem_cons_self, same⟩
      · exact .inl (List.mem_cons_of_mem _ h)

theorem isAlphanumeric_of_mem_singularizeLast {words : List (List Char)}
    (h : ∀ word ∈ words, IsAlphanumeric word) :
    ∀ word ∈ singularizeLast words, IsAlphanumeric word := by
  intro word hword
  obtain kept | ⟨other, member, rfl⟩ := mem_singularizeLast hword
  · exact h word kept
  · exact isAlphanumeric_singularize (h other member)

theorem singularizeLast_ne_nil {words : List (List Char)} (h : words ≠ []) :
    singularizeLast words ≠ [] := by
  cases words with
  | nil => exact absurd rfl h
  | cons first rest =>
    rw [singularizeLast]
    split <;> exact List.cons_ne_nil _ _

/-- Empty words are passed over in the search for the last one. -/
theorem filter_singularizeLast (words : List (List Char)) :
    (singularizeLast words).filter (!·.isEmpty)
      = (singularizeLast (words.filter (!·.isEmpty))).filter (!·.isEmpty) := by
  induction words with
  | nil => rfl
  | cons first rest ih =>
    rw [singularizeLast]
    have others : (rest.filter (!·.isEmpty)).any (!·.isEmpty) = rest.any (!·.isEmpty) := by
      rw [List.any_filter]
      simp only [Bool.and_self]
    cases empty : first.isEmpty with
    | true =>
      rw [List.filter_cons_of_neg (a := first) (by simp [empty]), ← ih]
      split
      · rw [List.filter_cons_of_neg (by simp [empty])]
      · next none =>
        have gone : rest.filter (!·.isEmpty) = [] := by
          rw [List.filter_eq_nil_iff]
          intro word hword nonempty
          exact none (List.any_eq_true.mpr ⟨word, hword, nonempty⟩)
        rw [ih, gone, if_pos rfl, List.filter_cons_of_neg (by simp [empty]), gone]
        rfl
    | false =>
      rw [List.filter_cons_of_pos (a := first) (by simp [empty]), singularizeLast, others]
      split
      · rw [List.filter_cons_of_pos (by simp [empty]),
          List.filter_cons_of_pos (by simp [empty]), ih]
      · rw [List.filter_cons, List.filter_cons, List.filter_filter]
        simp only [Bool.and_self, empty]

end Singular

section Folding

theorem toUpper_toLower {c : Char} (h : c.isAlphanum) : c.toLower.toUpper = c.toUpper :=
  Text.forall_alphanum (P := fun c => c.toLower.toUpper = c.toUpper) (by decide +kernel) h

theorem capitalize_map_toLower {word : List Char} (h : IsAlphanumeric word) :
    capitalize (word.map Char.toLower) = capitalize word := by
  cases word with
  | nil => rfl
  | cons c rest =>
    have others : IsAlphanumeric rest := fun d hd => h d (List.mem_cons_of_mem _ hd)
    rw [List.map_cons, capitalize, capitalize, toUpper_toLower (h c List.mem_cons_self),
      map_toLower_map_toLower others]

theorem singularize_map_toLower {word : List Char} (h : IsAlphanumeric word) :
    singularize (word.map Char.toLower) = singularize word := by
  rw [singularize_eq h.map_toLower, singularize_eq h, map_toLower_map_toLower h]

theorem map_capitalize_singularizeLast {words : List (List Char)}
    (h : ∀ word ∈ words, IsAlphanumeric word) :
    (singularizeLast (words.map (·.map Char.toLower))).map capitalize
      = (singularizeLast words).map capitalize := by
  induction words with
  | nil => rfl
  | cons first rest ih =>
    have alphanumeric := h first List.mem_cons_self
    have others : ∀ word ∈ rest, IsAlphanumeric word :=
      fun word hword => h word (List.mem_cons_of_mem _ hword)
    rw [List.map_cons, singularizeLast, singularizeLast, List.any_map]
    simp only [Function.comp_def, List.isEmpty_map, singularize_map_toLower alphanumeric]
    split
    · rw [List.map_cons, List.map_cons, ih others, capitalize_map_toLower alphanumeric]
    · rw [List.map_cons, List.map_cons, List.map_map]
      congr 1
      · split
        · exact capitalize_map_toLower alphanumeric
        · rfl
      · exact List.map_congr_left fun word hword => capitalize_map_toLower (others word hword)

end Folding

/-- The words of a name, capitalized and joined. -/
def joined (words : List (List Char)) : List Char :=
  match words.flatMap capitalize with
  | [] => ['_']
  | c :: rest => if c.isDigit then '_' :: c :: rest else c :: rest

theorem upperCamelCase_eq_joined (cs : List Char) : upperCamelCase cs = joined (parts cs) := rfl

theorem joined_congr {words others : List (List Char)}
    (h : words.map capitalize = others.map capitalize) : joined words = joined others := by
  rw [joined, joined, List.flatMap_def, List.flatMap_def, h]

theorem joined_filter (words : List (List Char)) :
    joined (words.filter (!·.isEmpty)) = joined words := by
  have same : (words.filter (!·.isEmpty)).flatMap capitalize = words.flatMap capitalize := by
    induction words with
    | nil => rfl
    | cons word words ih =>
      cases word with
      | nil => exact ih
      | cons c rest => rw [List.filter_cons_of_pos rfl, List.flatMap_cons, List.flatMap_cons, ih]
  rw [joined, joined, same]

/-- The name of an interface as a function of the segments of the identifier in lower case. -/
theorem toList_className (id : String) :
    (className id).toList = joined (singularizeLast (foldedSegments id)) := by
  have alphanumeric : ∀ part ∈ parts id.toList, IsAlphanumeric part :=
    fun _ => isAlphanum_of_mem_parts
  have nonempty : singularizeLast (parts id.toList) ≠ [] :=
    singularizeLast_ne_nil (Text.splitAt_ne_nil '_' _)
  calc (className id).toList
    _ = joined (parts (singularizeIdentifier id.toList)) := by
      rw [className, String.toList_ofList, upperCamelCase_eq_joined]
    _ = joined (singularizeLast (parts id.toList)) := by
      rw [singularizeIdentifier,
        parts_intercalate nonempty (isAlphanumeric_of_mem_singularizeLast alphanumeric)]
    _ = joined (singularizeLast (segments id.toList)) := by
      rw [← joined_filter, filter_singularizeLast, filter_parts, joined_filter]
    _ = joined (singularizeLast (foldedSegments id)) :=
      (joined_congr (map_capitalize_singularizeLast fun _ => isAlphanumeric_of_mem_segments)).symm

/-- The words that the language reserves, and those that it reserves in some places. -/
def reservedWords : List String := [
  "abstract", "any", "as", "asserts", "async", "await", "bigint", "boolean", "break", "case",
  "catch", "class", "const", "constructor", "continue", "debugger", "declare", "default", "delete",
  "do", "else", "enum", "export", "extends", "false", "finally", "for", "from", "function", "get",
  "global", "if", "implements", "import", "in", "infer", "instanceof", "interface", "is", "keyof",
  "let", "module", "namespace", "never", "new", "null", "number", "object", "of", "package",
  "private", "protected", "public", "readonly", "require", "return", "set", "static", "string",
  "super", "switch", "symbol", "this", "throw", "true", "try", "type", "typeof", "undefined",
  "unique", "unknown", "using", "var", "void", "while", "with", "yield"
]

/-- The types that members are given and that no collection declares. -/
def predefinedTypes : List String :=
  ["any", "unknown", "never", "null"] ++ Declaration.scalarTypes.map (·.2)

theorem IsClassName.isIdentifier {cs : List Char} (h : IsClassName cs) : isIdentifier cs := by
  have inside {rest : List Char} (h : ∀ d ∈ rest, d.isAlphanum) : rest.all isIdentifierRest :=
    List.all_eq_true.mpr fun d hd => by simp [isIdentifierRest, h d hd]
  cases h with
  | underscore => rfl
  | @letter c rest first others =>
    have alpha : c.isAlpha := Bool.or_eq_true_iff.mpr (.inl first)
    have start : isIdentifierStart c := by
      simp [isIdentifierStart, alpha]
    rw [Naming.isIdentifier, start, inside others]
    rfl
  | @digit c rest first others =>
    have alphanum : ∀ d ∈ c :: rest, d.isAlphanum :=
      List.forall_mem_cons.mpr ⟨Text.isAlphanum_of_isDigit first, others⟩
    rw [Naming.isIdentifier, inside alphanum]
    rfl

/-- No name starts as the words of the language do. -/
theorem IsClassName.ne_of_isLower {cs : List Char} (h : IsClassName cs) {word : List Char}
    (lower : word.head?.any Char.isLower) : cs ≠ word := by
  rintro rfl
  cases h with
  | underscore => cases lower
  | letter first =>
    have both := Text.forall_alphanum (P := fun c => ¬(c.isUpper ∧ c.isLower)) (by decide +kernel)
      (Text.isAlphanum_of_isUpper first)
    exact both ⟨first, lower⟩
  | digit => cases lower

/--
The name of an interface is a safe one: of a plain form, which is that of an identifier and never
that of a word of the language or of a predefined type. It is also a stable one: identifiers with
the same segments but for their letter case have the same name.
-/
theorem className_isSafe_and_stable (id : String) :
    IsClassName (className id).toList ∧ isIdentifier (className id).toList
      ∧ className id ∉ reservedWords ++ predefinedTypes
      ∧ ∀ other, foldedSegments other = foldedSegments id → className other = className id := by
  have name := isClassName_className id
  refine ⟨name, name.isIdentifier, ?_, ?_⟩
  · intro reserved
    have lower : (reservedWords ++ predefinedTypes).all fun word =>
        word.toList.head?.any Char.isLower := by decide +kernel
    exact name.ne_of_isLower (List.all_eq_true.mp lower _ reserved) rfl
  · intro other same
    rw [← String.toList_inj, toList_className, toList_className, same]

theorem className_stable_blogPosts :
    foldedSegments "--Blog//POSTS!" = foldedSegments "blog_posts"
      ∧ className "--Blog//POSTS!" = className "blog_posts" :=
  ⟨by decide +kernel,
    (className_isSafe_and_stable "blog_posts").2.2.2 "--Blog//POSTS!" (by decide +kernel)⟩

example : className "--Blog//POSTS!" = "BlogPost" := by decide +kernel

end Typescribe.Naming
