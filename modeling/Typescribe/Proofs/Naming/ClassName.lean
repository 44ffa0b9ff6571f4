import Typescribe.Naming.ClassName
import Typescribe.Proofs.Text.Ascii
import Typescribe.Proofs.Text.Split

/-!
This module contains the shape of the names of interfaces: whatever characters an identifier holds,
its name is an identifier of ASCII letters and digits.
-/

namespace Typescribe.Naming

/--
A lone underscore, or an upper-case letter with letters and digits behind it, or an underscore in
front of a digit with letters and digits behind it.
-/
inductive IsClassName : List Char → Prop where
  | underscore : IsClassName ['_']
  | letter {c : Char} {rest : List Char} (first : c.isUpper) (others : ∀ d ∈ rest, d.isAlphanum) :
    IsClassName (c :: rest)
  | digit {c : Char} {rest : List Char} (first : c.isDigit) (others : ∀ d ∈ rest, d.isAlphanum) :
    IsClassName ('_' :: c :: rest)

theorem isSafe_of_mem_replaceUnsafe {cs : List Char} {c : Char} (h : c ∈ replaceUnsafe cs) :
    isSafe c := by
  have go : ∀ inRun, c ∈ replaceUnsafe.go inRun cs → isSafe c := by
    clear h
    induction cs with
    | nil => intro inRun h; simp [replaceUnsafe.go] at h
    | cons d rest ih =>
      intro inRun h
      unfold replaceUnsafe.go at h
      split at h
      · next hd =>
        cases List.mem_cons.mp h with
        | inl hc => exact hc ▸ hd
        | inr hc => exact ih false hc
      · split at h
        · exact ih true h
        · cases List.mem_cons.mp h with
          | inl hc => rw [hc]; decide
          | inr hc => exact ih true hc
  exact go false h

theorem isAlphanum_of_mem_parts {cs part : List Char} (h : part ∈ parts cs) :
    ∀ c ∈ part, c.isAlphanum := by
  intro c hc
  have safe := isSafe_of_mem_replaceUnsafe (Text.mem_of_mem_splitAt h c hc)
  have other : c ≠ '_' := fun e => Text.not_mem_of_mem_splitAt h (e ▸ hc)
  simpa [isSafe, other] using safe

theorem isAlphanum_of_mem_capitalize {part : List Char} (h : ∀ c ∈ part, c.isAlphanum) :
    ∀ c ∈ capitalize part, c.isAlphanum := by
  intro c hc
  cases part with
  | nil => simp [capitalize] at hc
  | cons first rest =>
    cases List.mem_cons.mp hc with
    | inl hc =>
      subst hc
      cases Text.isUpper_or_isDigit_toUpper (h first List.mem_cons_self) with
      | inl upper => exact Text.isAlphanum_of_isUpper upper
      | inr digit => exact Text.isAlphanum_of_isDigit digit
    | inr hc =>
      obtain ⟨d, hd, rfl⟩ := List.mem_map.mp hc
      exact Text.isAlphanum_toLower (h d (List.mem_cons_of_mem _ hd))

theorem isUpper_or_isDigit_of_flatMap_capitalize {words : List (List Char)}
    (h : ∀ part ∈ words, ∀ c ∈ part, c.isAlphanum) {c : Char} {rest : List Char}
    (hc : words.flatMap capitalize = c :: rest) : c.isUpper ∨ c.isDigit := by
  induction words with
  | nil => cases hc
  | cons part words ih =>
    cases part with
    | nil => exact ih (fun p hp => h p (List.mem_cons_of_mem _ hp)) hc
    | cons first others =>
      rw [List.flatMap_cons, capitalize, List.cons_append] at hc
      obtain ⟨rfl, -⟩ := List.cons.inj hc
      exact Text.isUpper_or_isDigit_toUpper (h _ List.mem_cons_self first List.mem_cons_self)

theorem isClassName_upperCamelCase (cs : List Char) : IsClassName (upperCamelCase cs) := by
  have inside : ∀ part ∈ parts cs, ∀ c ∈ part, c.isAlphanum := fun _ => isAlphanum_of_mem_parts
  unfold upperCamelCase
  split
  · exact .underscore
  · next c rest hc =>
    have others : ∀ d ∈ rest, d.isAlphanum := by
      intro d hd
      obtain ⟨part, hp, hd⟩ := List.mem_flatMap.mp (hc ▸ List.mem_cons_of_mem c hd)
      exact isAlphanum_of_mem_capitalize (inside part hp) d hd
    split
    · next digit => exact .digit digit others
    · next noDigit =>
      apply IsClassName.letter _ others
      exact (isUpper_or_isDigit_of_flatMap_capitalize inside hc).resolve_right noDigit

theorem isClassName_className (id : String) : IsClassName (className id).toList := by
  rw [className, String.toList_ofList]
  exact isClassName_upperCamelCase _

theorem isSafe_of_isAlphanum {c : Char} (h : c.isAlphanum) : isSafe c := by
  simp [isSafe, h]

namespace IsClassName

variable {cs : List Char} (h : IsClassName cs)
include h

theorem ne_nil : cs ≠ [] := by
  cases h <;> simp

theorem isSafe : ∀ c ∈ cs, isSafe c := by
  cases h with
  | underscore => simp [Naming.isSafe]
  | letter first others =>
    intro c hc
    cases List.mem_cons.mp hc with
    | inl hc => exact hc ▸ isSafe_of_isAlphanum (Text.isAlphanum_of_isUpper first)
    | inr hc => exact isSafe_of_isAlphanum (others c hc)
  | digit first others =>
    intro c hc
    rcases List.mem_cons.mp hc with hc | hc
    · rw [hc]; decide
    · cases List.mem_cons.mp hc with
      | inl hc => exact hc ▸ isSafe_of_isAlphanum (Text.isAlphanum_of_isDigit first)
      | inr hc => exact isSafe_of_isAlphanum (others c hc)

end IsClassName

theorem isSafe_of_mem_className {id : String} : ∀ c ∈ (className id).toList, isSafe c :=
  (isClassName_className id).isSafe

end Typescribe.Naming
