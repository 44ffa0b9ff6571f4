/-!
This module contains the splitting of a text at a character and the search for a text inside another
one.
-/

namespace Typescribe.Text

/-- The parts of a text between the occurrences of a character; there is always one part. -/
def splitAt (separator : Char) : List Char → List (List Char)
  | [] => [[]]
  | c :: rest =>
    if c = separator then
      [] :: splitAt separator rest
    else
      match splitAt separator rest with
      | [] => [[c]]
      | part :: parts => (c :: part) :: parts

theorem splitAt_ne_nil (separator : Char) (cs : List Char) : splitAt separator cs ≠ [] := by
  cases cs with
  | nil => simp [splitAt]
  | cons c rest =>
    simp only [splitAt]
    split
    · simp
    · split <;> simp

theorem splitAt_of_not_mem {separator : Char} {cs : List Char} (h : separator ∉ cs) :
    splitAt separator cs = [cs] := by
  induction cs with
  | nil => rfl
  | cons c rest ih =>
    have hc : c ≠ separator := fun e => h (e ▸ List.mem_cons_self)
    simp [splitAt, hc, ih fun m => h (List.mem_cons_of_mem _ m)]

theorem splitAt_append_cons {separator : Char} {part : List Char} (h : separator ∉ part)
    (rest : List Char) :
    splitAt separator (part ++ separator :: rest) = part :: splitAt separator rest := by
  induction part with
  | nil => simp [splitAt]
  | cons c part ih =>
    have hc : c ≠ separator := fun e => h (e ▸ List.mem_cons_self)
    simp [splitAt, hc, ih fun m => h (List.mem_cons_of_mem _ m)]

theorem not_mem_of_mem_splitAt {separator : Char} {cs part : List Char}
    (h : part ∈ splitAt separator cs) : separator ∉ part := by
  induction cs generalizing part with
  | nil => simp_all [splitAt]
  | cons c rest ih =>
    by_cases hc : c = separator
    · simp only [splitAt, hc, if_true, List.mem_cons] at h
      rcases h with rfl | h
      · simp
      · exact ih h
    · cases hs : splitAt separator rest with
      | nil => exact absurd hs (splitAt_ne_nil separator rest)
      | cons first others =>
        simp only [splitAt, hc, if_false, hs, List.mem_cons] at h
        rcases h with rfl | h
        · simpa [Ne.symm hc] using ih (hs ▸ List.mem_cons_self)
        · exact ih (hs ▸ List.mem_cons_of_mem _ h)

def cutAt (separator : Char) : List Char → Option (List Char × List Char)
  | [] => none
  | c :: rest =>
    if c = separator then
      some ([], rest)
    else
      (cutAt separator rest).map fun (before, after) => (c :: before, after)

theorem eq_append_of_cutAt {separator : Char} {cs before after : List Char}
    (h : cutAt separator cs = some (before, after)) :
    cs = before ++ separator :: after ∧ separator ∉ before := by
  induction cs generalizing before with
  | nil => simp [cutAt] at h
  | cons c rest ih =>
    by_cases hc : c = separator
    · simp only [cutAt, hc, if_true, Option.some.injEq, Prod.mk.injEq] at h
      obtain ⟨rfl, rfl⟩ := h
      simp [hc]
    · simp only [cutAt, hc, if_false, Option.map_eq_some_iff, Prod.mk.injEq, Prod.exists] at h
      obtain ⟨start, _, cut, rfl, rfl⟩ := h
      obtain ⟨rfl, absent⟩ := ih cut
      exact ⟨rfl, by simp [Ne.symm hc, absent]⟩

theorem cutAt_eq_none_iff {separator : Char} {cs : List Char} :
    cutAt separator cs = none ↔ separator ∉ cs := by
  induction cs with
  | nil => simp [cutAt]
  | cons c rest ih =>
    by_cases hc : c = separator
    · simp [cutAt, hc]
    · simp [cutAt, hc, Ne.symm hc, ih]

def startsWith (start text : List Char) : Bool :=
  start.isPrefixOf text

def endsWith (ending text : List Char) : Bool :=
  ending.reverse.isPrefixOf text.reverse

def occursIn (part : List Char) : List Char → Bool
  | [] => part.isEmpty
  | c :: rest => part.isPrefixOf (c :: rest) || occursIn part rest

end Typescribe.Text
