import Typescribe.Proofs.Naming.Singular

/-!
This module contains what the singular of a singular is: the word itself, unless the irregular words
know it as a plural. What a rule for endings makes of a word either ends in no `s`, so that no rule
fits it, or in letters that the first rule keeps.
-/

namespace Typescribe.Naming

/-! ### Letters at the end of a word -/

section Letters

variable {letters others : List Letter} {cs rest : List Char}

theorem startsWithLetters_append (h : startsWithLetters (letters ++ others) cs) :
    startsWithLetters letters cs := by
  induction letters generalizing cs with
  | nil => rfl
  | cons letter letters ih =>
    cases cs with
    | nil => cases h
    | cons c cs =>
      simp only [List.cons_append, startsWithLetters, Bool.and_eq_true] at h ⊢
      exact ⟨h.1, ih h.2⟩

/-- What stands behind a word is asked for as before. -/
theorem startsWithLetters_word_append (s : List Char) :
    startsWithLetters (s.map (.oneOf [·]) ++ letters) (s ++ rest)
      = startsWithLetters letters rest := by
  induction s with
  | nil => rfl
  | cons c s ih =>
    rw [List.map_cons, List.cons_append, List.cons_append, startsWithLetters, ih]
    simp [Letter.test]

end Letters

namespace SuffixRule

/-- The letters that a word has to end in for a rule to fit it, the last one first. -/
def lettersBefore (rule : SuffixRule) (stem : List Letter) : List Letter :=
  (word rule.ending).reverse ++ stem.reverse

/-- The letters in which a word ends behind the rule, the last one first. -/
def lettersAfter (rule : SuffixRule) (stem : List Letter) : List Letter :=
  (word rule.replacement).reverse ++ stem.reverse

end SuffixRule

theorem startsWithLetters_reverse_word (s : String) (letters : List Letter) (rest : List Char) :
    startsWithLetters ((word s).reverse ++ letters) (s.toList.reverse ++ rest)
      = startsWithLetters letters rest := by
  rw [word, ← List.map_reverse]
  exact startsWithLetters_word_append _

variable {rule : SuffixRule} {cs reversed result : List Char}

/-- The stem under which a rule fits tells in which letters the word ends before and behind it. -/
theorem exists_letters_of_applyReversed? (h : rule.applyReversed? reversed = some result) :
    ∃ stem ∈ rule.stems, startsWithLetters (rule.lettersBefore stem) reversed
      ∧ startsWithLetters (rule.lettersAfter stem) result := by
  obtain ⟨stem, member, rest, rfl, starts, rfl⟩ := applyReversed?_eq_some_iff.mp h
  refine ⟨stem, member, ?_, ?_⟩
  · rwa [SuffixRule.lettersBefore, startsWithLetters_reverse_word]
  · rwa [SuffixRule.lettersAfter, startsWithLetters_reverse_word]

/-! ### Words that the rules keep -/

/-- The first rule: it puts back what it takes. -/
def keepingRule : SuffixRule :=
  ⟨["ss", "us", "is", "alias", "atlas", "canvas", "gas"].map word, "", ""⟩

theorem applyReversed?_keepingRule {stem : List Letter} (member : stem ∈ keepingRule.stems)
    (h : startsWithLetters stem.reverse reversed) :
    keepingRule.applyReversed? reversed = some reversed :=
  applyReversed?_eq_some_iff.mpr ⟨stem, member, reversed, rfl, h, rfl⟩

theorem applyRules_of_keepingRule {stem : List Letter} (member : stem ∈ keepingRule.stems)
    (h : startsWithLetters stem.reverse cs.reverse) : applyRules cs = cs := by
  have first : suffixRules = keepingRule :: suffixRules.tail := rfl
  rw [applyRules, first, List.findSome?_cons, applyReversed?_keepingRule member h]
  exact List.reverse_reverse cs

/-- Every rule asks for an `s` at the end of the word. -/
theorem head?_of_applyReversed? (member : rule ∈ suffixRules)
    (h : rule.applyReversed? reversed = some result) : reversed.head? = some 's' := by
  have all : ∀ rule ∈ suffixRules, ∀ stem ∈ rule.stems,
      (rule.lettersBefore stem).head? = some (.oneOf ['s']) := by decide
  obtain ⟨stem, hstem, before, -⟩ := exists_letters_of_applyReversed? h
  have last := all rule member stem hstem
  cases reversed with
  | nil =>
    obtain ⟨letters, hletters⟩ := List.head?_eq_some_iff.mp last
    rw [hletters] at before
    cases before
  | cons c reversed =>
    obtain ⟨letters, hletters⟩ := List.head?_eq_some_iff.mp last
    rw [hletters, startsWithLetters, Bool.and_eq_true] at before
    simpa [Letter.test] using before.1

theorem applyRules_of_head?_ne (h : cs.reverse.head? ≠ some 's') : applyRules cs = cs := by
  unfold applyRules
  split
  · next found =>
    obtain ⟨rule, member, applied⟩ := List.exists_of_findSome?_eq_some found
    exact absurd (head?_of_applyReversed? member applied) h
  · rfl

/-- Letters, the last one first, by which the rules keep a word. -/
def areKept : List Letter → Bool
  | [] => false
  | last :: others =>
    !last.test 's' || keepingRule.stems.any fun stem => stem.reverse.isPrefixOf (last :: others)

theorem applyRules_of_areKept {letters : List Letter} (kept : areKept letters)
    (h : startsWithLetters letters cs.reverse) : applyRules cs = cs := by
  cases letters with
  | nil => cases kept
  | cons last others =>
    rcases Bool.or_eq_true_iff.mp kept with other | named
    · apply applyRules_of_head?_ne
      intro ends
      obtain ⟨front, reversed⟩ := List.head?_eq_some_iff.mp ends
      rw [reversed, startsWithLetters, Bool.and_eq_true] at h
      simp [h.1] at other
    · obtain ⟨stem, member, start⟩ := List.any_eq_true.mp named
      obtain ⟨further, whole⟩ := List.isPrefixOf_iff_prefix.mp start
      rw [← whole] at h
      exact applyRules_of_keepingRule member (startsWithLetters_append h)

/-- The last rule, which takes an `s` away whatever stands before it. -/
def strippingRule : SuffixRule :=
  ⟨[[]], "s", ""⟩

theorem areKept_lettersAfter : ∀ rule ∈ suffixRules, rule ≠ strippingRule →
    ∀ stem ∈ rule.stems, areKept (rule.lettersAfter stem) := by
  decide

/-- A word that the first rule does not keep has no second `s` for the last rule to leave. -/
theorem head?_of_strippingRule (h : strippingRule.applyReversed? reversed = some result)
    (unkept : keepingRule.applyReversed? reversed = none) : result.head? ≠ some 's' := by
  obtain ⟨stem, -, rest, whole, -, left⟩ := applyReversed?_eq_some_iff.mp h
  have stripped : reversed = 's' :: result := whole.trans (congrArg ('s' :: ·) left.symm)
  intro ends
  obtain ⟨front, two⟩ := List.head?_eq_some_iff.mp ends
  have double : word "ss" ∈ keepingRule.stems := by decide
  have kept : keepingRule.applyReversed? ('s' :: 's' :: front) = some ('s' :: 's' :: front) :=
    applyReversed?_keepingRule double rfl
  rw [stripped, two, kept] at unkept
  cases unkept

theorem keepingRule_mem_of_append {before after : List SuffixRule}
    (table : suffixRules = before ++ rule :: after) (other : rule ≠ keepingRule) :
    keepingRule ∈ before := by
  have first : suffixRules.head? = some keepingRule := rfl
  rw [table] at first
  cases before with
  | nil => exact absurd (Option.some.inj first) other
  | cons earlier before => exact List.mem_cons.mpr (.inl (Option.some.inj first).symm)

/-- The rules keep what one of them has made. -/
theorem applyRules_applyRules (cs : List Char) : applyRules (applyRules cs) = applyRules cs := by
  rcases found : suffixRules.findSome? (·.applyReversed? cs.reverse) with _ | result
  · have same : applyRules cs = cs := by rw [applyRules, found]
    rw [same, same]
  · have made : applyRules cs = result.reverse := by rw [applyRules, found]
    obtain ⟨before, rule, after, table, applied, earlier⟩ :=
      List.findSome?_eq_some_iff.mp found
    rw [made]
    by_cases last : rule = strippingRule
    · subst last
      have unkept := earlier _ (keepingRule_mem_of_append table (by decide))
      apply applyRules_of_head?_ne
      rw [List.reverse_reverse]
      exact head?_of_strippingRule applied unkept
    · have member : rule ∈ suffixRules := table ▸ List.mem_append_right _ List.mem_cons_self
      obtain ⟨stem, hstem, -, ends⟩ := exists_letters_of_applyReversed? applied
      apply applyRules_of_areKept (areKept_lettersAfter rule member last stem hstem)
      rwa [List.reverse_reverse]

/-! ### Singulars of singulars -/

theorem singularizeLower_of_mem_uncountable {cs : List Char}
    (h : String.ofList cs ∈ uncountable) : singularizeLower cs = cs := by
  rw [singularizeLower, if_pos]
  simp [h]

/-- The plurals of the table are words, and none of them is uncountable. -/
theorem singularizeLower_of_lookup {cs : List Char} {singular : String}
    (h : irregular.lookup (String.ofList cs) = some singular) :
    singularizeLower cs = singular.toList := by
  have apart : ∀ entry ∈ irregular, entry.1 ≠ "" ∧ entry.1 ∉ uncountable := by decide +kernel
  obtain ⟨nonempty, countable⟩ := apart _ (mem_of_lookup h)
  rw [singularizeLower, if_neg, h]
  rintro left
  rcases Bool.or_eq_true_iff.mp left with empty | known
  · exact nonempty (by rw [List.isEmpty_iff.mp empty, String.ofList_nil])
  · exact countable (List.contains_iff_mem.mp known)

theorem singularizeLower_of_regular {cs : List Char} (countable : String.ofList cs ∉ uncountable)
    (regular : irregular.lookup (String.ofList cs) = none) (noLineFeed : cs.getLast? ≠ some '\n') :
    singularizeLower cs = applyRules cs := by
  cases cs with
  | nil => rfl
  | cons c cs =>
    rw [singularizeLower, if_neg (by simpa using countable), regular]
    exact if_neg noLineFeed

theorem singularizeLower_of_mem_singulars {entry : String × String} (h : entry ∈ irregular) :
    singularizeLower entry.2.toList = entry.2.toList := by
  have all : irregular.all fun entry => singularizeLower entry.2.toList = entry.2.toList := by
    decide +kernel
  exact of_decide_eq_true (List.all_eq_true.mp all entry h)

theorem IsAlphanumeric.getLast?_ne {cs : List Char} (h : IsAlphanumeric cs) :
    cs.getLast? ≠ some '\n' := by
  intro newline
  exact absurd (h '\n' (List.mem_of_getLast? newline)) (by decide)

theorem singularizeLower_singularizeLower {cs : List Char} (h : IsAlphanumeric cs)
    (regular : irregular.lookup (String.ofList (singularizeLower cs)) = none) :
    singularizeLower (singularizeLower cs) = singularizeLower cs := by
  by_cases countable : String.ofList cs ∈ uncountable
  · rw [singularizeLower_of_mem_uncountable countable,
      singularizeLower_of_mem_uncountable countable]
  · rcases plural : irregular.lookup (String.ofList cs) with _ | singular
    · have made := singularizeLower_of_regular countable plural h.getLast?_ne
      have plain := (isAlphanumeric_singularizeLower h).getLast?_ne
      by_cases known : String.ofList (singularizeLower cs) ∈ uncountable
      · exact singularizeLower_of_mem_uncountable known
      · rw [singularizeLower_of_regular known regular plain, made, applyRules_applyRules]
    · rw [singularizeLower_of_lookup plural]
      exact singularizeLower_of_mem_singulars (mem_of_lookup plural)

/-- No irregular plural is its own singular. -/
theorem singularizeLower_ne_of_lookup {cs : List Char} {singular : String}
    (h : irregular.lookup (String.ofList cs) = some singular) : singularizeLower cs ≠ cs := by
  have apart : ∀ entry ∈ irregular, entry.2 ≠ entry.1 := by decide
  rw [singularizeLower_of_lookup h]
  intro same
  apply apart _ (mem_of_lookup h)
  rw [← same, String.ofList_toList]

theorem map_toLower_singularize {cs : List Char} (h : IsAlphanumeric cs) :
    (singularize cs).map Char.toLower = singularize cs := by
  have singulars : irregular.all fun entry =>
      entry.2.toList.all fun c => decide (c.toLower = c) := by decide +kernel
  have replacements : suffixRules.all fun rule =>
      rule.replacement.toList.all fun c => decide (c.toLower = c) := by decide +kernel
  simp only [List.all_eq_true, decide_eq_true_eq] at singulars replacements
  have lower : ∀ c ∈ cs.map Char.toLower, c.toLower = c := by
    intro c hc
    obtain ⟨d, hd, rfl⟩ := List.mem_map.mp hc
    exact toLower_toLower (h d hd)
  have made := forall_mem_singularizeLower singulars replacements lower
  rw [singularize_eq h, List.map_congr_left made, List.map_id']

/--
A word that is in the singular stays as it is, unless the table of irregular words has it as a
plural.
-/
theorem singularize_singularize_iff {cs : List Char} (h : IsAlphanumeric cs) :
    singularize (singularize cs) = singularize cs
      ↔ String.ofList (singularize cs) ∉ irregular.map (·.1) := by
  have again : singularize (singularize cs) = singularizeLower (singularize cs) := by
    rw [singularize_eq (isAlphanumeric_singularize h), map_toLower_singularize h]
  have absent : String.ofList (singularize cs) ∉ irregular.map (·.1)
      ↔ irregular.lookup (String.ofList (singularize cs)) = none := by
    simp only [List.mem_map, List.lookup_eq_none_iff, not_exists, not_and, bne_iff_ne]
    exact forall₂_congr fun entry _ => not_congr eq_comm
  rw [again, absent]
  constructor
  · intro kept
    cases plural : irregular.lookup (String.ofList (singularize cs)) with
    | none => rfl
    | some singular => exact absurd kept (singularizeLower_ne_of_lookup plural)
  · intro regular
    rw [singularize_eq h] at regular ⊢
    exact singularizeLower_singularizeLower h.map_toLower regular

theorem singularize_singularize_statuses :
    IsAlphanumeric "Statuses".toList ∧ singularize "Statuses".toList = "status".toList
      ∧ "status" ∉ irregular.map (·.1)
      ∧ singularize (singularize "Statuses".toList) = singularize "Statuses".toList := by
  have plain : IsAlphanumeric "Statuses".toList := Text.forall_mem_of_all rfl
  have singular : singularize "Statuses".toList = "status".toList := by decide +kernel
  have regular : "status" ∉ irregular.map (·.1) := by decide
  refine ⟨plain, singular, regular, (singularize_singularize_iff plain).mpr ?_⟩
  rw [singular]
  exact regular

/-- The singular can be an irregular plural. -/
example : singularize "mens".toList = "men".toList ∧ singularize "men".toList = "man".toList := by
  decide +kernel

end Typescribe.Naming
