import Typescribe.Naming.Singular
import Typescribe.Proofs.Text.Ascii

/-!
This module contains what the singular of a word of ASCII letters and digits is made of: letters and
digits again, whichever rule applies, and without regard to the letter case of the word.
-/

namespace Typescribe

namespace Text

theorem lowerChar_of_isAlphanum {c : Char} (h : c.isAlphanum) : lowerChar c = [c.toLower] :=
  forall_alphanum (P := fun c => lowerChar c = [c.toLower]) (by decide +kernel) h

theorem lowerCase_of_isAlphanum {cs : List Char} (h : ∀ c ∈ cs, c.isAlphanum) :
    lowerCase cs = cs.map Char.toLower := by
  have go : ∀ before, lowerCase.go before cs = cs.map Char.toLower := by
    induction cs with
    | nil => exact fun _ => rfl
    | cons c rest ih =>
      intro before
      have alphanum := h c List.mem_cons_self
      have noSigma : c ≠ 'Σ' := by
        rintro rfl
        exact absurd alphanum (by decide)
      rw [lowerCase.go, if_neg noSigma, lowerChar_of_isAlphanum alphanum,
        ih (fun d hd => h d (List.mem_cons_of_mem _ hd))]
      rfl
  exact go []

end Text

namespace Naming

/-- Letters and digits of ASCII only. -/
def IsAlphanumeric (cs : List Char) : Prop :=
  ∀ c ∈ cs, c.isAlphanum

/-! ### Rules -/

/--
A rule that fits finds its ending behind one of its stems, and puts the replacement in the place of
the ending. All texts are reversed.
-/
theorem applyReversed?_eq_some_iff {rule : SuffixRule} {reversed result : List Char} :
    rule.applyReversed? reversed = some result
      ↔ ∃ stem ∈ rule.stems, ∃ rest, reversed = rule.ending.toList.reverse ++ rest
        ∧ startsWithLetters stem.reverse rest
        ∧ result = rule.replacement.toList.reverse ++ rest := by
  have behind (rest : List Char) :
      (rule.ending.toList.reverse ++ rest).drop rule.ending.toList.length = rest :=
    List.drop_left' List.length_reverse
  unfold SuffixRule.applyReversed?
  constructor
  · intro h
    split at h
    · next ends =>
      obtain ⟨rest, rfl⟩ := List.isPrefixOf_iff_prefix.mp ends
      simp only [behind] at h
      split at h
      · next fits =>
        obtain ⟨stem, member, starts⟩ := List.any_eq_true.mp fits
        exact ⟨stem, member, rest, rfl, starts, (Option.some.inj h).symm⟩
      · cases h
    · cases h
  · rintro ⟨stem, member, rest, rfl, starts, rfl⟩
    have ends : rule.ending.toList.reverse.isPrefixOf (rule.ending.toList.reverse ++ rest) :=
      List.isPrefixOf_iff_prefix.mpr (List.prefix_append _ _)
    have fits : rule.stems.any fun letters => startsWithLetters letters.reverse rest :=
      List.any_eq_true.mpr ⟨stem, member, starts⟩
    rw [if_pos ends]
    simp only [behind, fits, if_true]

theorem mem_of_lookup {key value : String} {table : List (String × String)}
    (h : table.lookup key = some value) : (key, value) ∈ table := by
  obtain ⟨before, after, rfl, -⟩ := List.lookup_eq_some_iff.mp h
  exact List.mem_append_right _ List.mem_cons_self

section Characters

variable {P : Char → Prop} {cs : List Char}

/-- The rules bring in no characters but those of their replacements. -/
theorem forall_mem_applyRules
    (replacements : ∀ rule ∈ suffixRules, ∀ c ∈ rule.replacement.toList, P c)
    (h : ∀ c ∈ cs, P c) : ∀ c ∈ applyRules cs, P c := by
  unfold applyRules
  split
  · next reversed found =>
    obtain ⟨rule, member, applied⟩ := List.exists_of_findSome?_eq_some found
    obtain ⟨stem, -, rest, whole, -, rfl⟩ := applyReversed?_eq_some_iff.mp applied
    intro c hc
    rcases List.mem_append.mp (List.mem_reverse.mp hc) with hc | hc
    · exact replacements rule member c (List.mem_reverse.mp hc)
    · exact h c (List.mem_reverse.mp (whole ▸ List.mem_append_right _ hc))
  · exact h

theorem forall_mem_singularizeLower
    (singulars : ∀ entry ∈ irregular, ∀ c ∈ entry.2.toList, P c)
    (replacements : ∀ rule ∈ suffixRules, ∀ c ∈ rule.replacement.toList, P c)
    (h : ∀ c ∈ cs, P c) : ∀ c ∈ singularizeLower cs, P c := by
  unfold singularizeLower
  split
  · exact h
  · split
    · next singular found => exact singulars _ (mem_of_lookup found)
    · split
      · next newline =>
        intro c hc
        rcases List.mem_append.mp hc with hc | hc
        · exact forall_mem_applyRules replacements
            (fun d hd => h d ((List.dropLast_sublist cs).subset hd)) c hc
        · rw [List.mem_singleton.mp hc]
          exact h _ (List.mem_of_getLast? newline)
      · exact forall_mem_applyRules replacements h

end Characters

theorem isAlphanumeric_singularizeLower {cs : List Char} (h : IsAlphanumeric cs) :
    IsAlphanumeric (singularizeLower cs) := by
  have singulars : irregular.all fun entry => entry.2.toList.all Char.isAlphanum := by
    decide +kernel
  have replacements : suffixRules.all fun rule => rule.replacement.toList.all Char.isAlphanum := by
    decide +kernel
  simp only [List.all_eq_true] at singulars replacements
  exact forall_mem_singularizeLower singulars replacements h

theorem IsAlphanumeric.map_toLower {cs : List Char} (h : IsAlphanumeric cs) :
    IsAlphanumeric (cs.map Char.toLower) := by
  intro c hc
  obtain ⟨d, hd, rfl⟩ := List.mem_map.mp hc
  exact Text.isAlphanum_toLower (h d hd)

theorem toLower_toLower {c : Char} (h : c.isAlphanum) : c.toLower.toLower = c.toLower :=
  Text.forall_alphanum (P := fun c => c.toLower.toLower = c.toLower) (by decide +kernel) h

theorem map_toLower_map_toLower {word : List Char} (h : IsAlphanumeric word) :
    (word.map Char.toLower).map Char.toLower = word.map Char.toLower := by
  rw [List.map_map]
  exact List.map_congr_left fun c hc => toLower_toLower (h c hc)

/-- The singular does not depend on the letter case of the word. -/
theorem singularize_eq {cs : List Char} (h : IsAlphanumeric cs) :
    singularize cs = singularizeLower (cs.map Char.toLower) := by
  rw [singularize, Text.lowerCase_of_isAlphanum h]

theorem isAlphanumeric_singularize {cs : List Char} (h : IsAlphanumeric cs) :
    IsAlphanumeric (singularize cs) := by
  rw [singularize_eq h]
  exact isAlphanumeric_singularizeLower h.map_toLower

end Naming

end Typescribe
