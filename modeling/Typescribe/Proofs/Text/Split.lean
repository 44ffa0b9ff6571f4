import Typescribe.Text.Split

/-!
This module contains lemmas about the parts of a text that is split at a character.
-/

namespace Typescribe.Text

theorem mem_of_mem_splitAt {separator : Char} {cs part : List Char}
    (h : part ∈ splitAt separator cs) : ∀ c ∈ part, c ∈ cs := by
  induction cs generalizing part with
  | nil => simp_all [splitAt]
  | cons d rest ih =>
    intro c hc
    unfold splitAt at h
    split at h
    · cases List.mem_cons.mp h with
      | inl hp => simp [hp] at hc
      | inr hp => exact List.mem_cons_of_mem _ (ih hp c hc)
    · split at h
      · next hs => exact absurd hs (splitAt_ne_nil separator rest)
      · next first others hs =>
        cases List.mem_cons.mp h with
        | inl hp =>
          subst hp
          cases List.mem_cons.mp hc with
          | inl hd => exact hd ▸ List.mem_cons_self
          | inr hd => exact List.mem_cons_of_mem _ (ih (hs ▸ List.mem_cons_self) c hd)
        | inr hp => exact List.mem_cons_of_mem _ (ih (hs ▸ List.mem_cons_of_mem _ hp) c hc)

theorem splitAt_append_separator (separator : Char) (front back : List Char) :
    splitAt separator (front ++ separator :: back)
      = splitAt separator front ++ splitAt separator back := by
  induction front with
  | nil => simp [splitAt]
  | cons c front ih =>
    rw [List.cons_append, splitAt, splitAt]
    split
    · rw [ih, List.cons_append]
    · rw [ih]
      rcases parts : splitAt separator front with _ | ⟨part, parts⟩
      · exact absurd parts (splitAt_ne_nil separator front)
      · rfl

theorem splitAt_append_of_not_mem {separator : Char} {front : List Char} (h : separator ∉ front)
    (back : List Char) :
    splitAt separator (front ++ back) = (splitAt separator back).modifyHead (front ++ ·) := by
  induction front with
  | nil =>
    obtain ⟨part, parts, split⟩ := List.exists_cons_of_ne_nil (splitAt_ne_nil separator back)
    rw [List.nil_append, split]
    rfl
  | cons c front ih =>
    have other : c ≠ separator := fun same => h (same ▸ List.mem_cons_self)
    obtain ⟨part, parts, split⟩ := List.exists_cons_of_ne_nil (splitAt_ne_nil separator back)
    rw [List.cons_append, splitAt, if_neg other, ih fun hm => h (List.mem_cons_of_mem _ hm), split]
    rfl

/-- What is put behind a text without a separator only makes its last part longer. -/
theorem exists_splitAt_append (separator : Char) (front : List Char) :
    ∃ parts last, ∀ word, separator ∉ word →
      splitAt separator (front ++ word) = parts ++ [last ++ word] := by
  induction front with
  | nil => exact ⟨[], [], fun word plain => splitAt_of_not_mem plain⟩
  | cons c front ih =>
    obtain ⟨parts, last, split⟩ := ih
    by_cases same : c = separator
    · refine ⟨[] :: parts, last, fun word plain => ?_⟩
      rw [List.cons_append, splitAt, if_pos same, split word plain]
      rfl
    · cases parts with
      | nil =>
        refine ⟨[], c :: last, fun word plain => ?_⟩
        rw [List.cons_append, splitAt, if_neg same, split word plain]
        rfl
      | cons part parts =>
        refine ⟨(c :: part) :: parts, last, fun word plain => ?_⟩
        rw [List.cons_append, splitAt, if_neg same, split word plain]
        rfl

theorem intercalate_cons_eq (separator : Char) (part : List Char) (parts : List (List Char)) :
    List.intercalate [separator] (part :: parts)
      = part ++ parts.flatMap (separator :: ·) := by
  induction parts generalizing part with
  | nil => simp
  | cons next parts ih =>
    rw [List.intercalate_cons_cons, ih, List.flatMap_cons, List.append_assoc]
    rfl

theorem intercalate_splitAt (separator : Char) (cs : List Char) :
    List.intercalate [separator] (splitAt separator cs) = cs := by
  induction cs with
  | nil => rfl
  | cons c rest ih =>
    unfold splitAt
    rcases parts : splitAt separator rest with _ | ⟨part, parts⟩
    · exact absurd parts (splitAt_ne_nil separator rest)
    · rw [parts, intercalate_cons_eq] at ih
      split
      · next same =>
        rw [intercalate_cons_eq, List.flatMap_cons, List.nil_append, List.cons_append, ih, same]
      · rw [intercalate_cons_eq, List.cons_append, ih]

theorem splitAt_intercalate {separator : Char} {parts : List (List Char)} (nonempty : parts ≠ [])
    (h : ∀ part ∈ parts, separator ∉ part) :
    splitAt separator (List.intercalate [separator] parts) = parts := by
  induction parts with
  | nil => exact absurd rfl nonempty
  | cons part parts ih =>
    have first := h part List.mem_cons_self
    cases parts with
    | nil => rw [List.intercalate_singleton, splitAt_of_not_mem first]
    | cons next parts =>
      rw [List.intercalate_cons_cons, List.append_assoc, List.singleton_append,
        splitAt_append_cons first,
        ih (List.cons_ne_nil _ _) fun p hp => h p (List.mem_cons_of_mem _ hp)]

theorem eq_or_exists_of_mem_intercalate {separator c : Char} {parts : List (List Char)}
    (h : c ∈ List.intercalate [separator] parts) : c = separator ∨ ∃ part ∈ parts, c ∈ part := by
  induction parts with
  | nil => cases h
  | cons part parts ih =>
    cases parts with
    | nil =>
      rw [List.intercalate_singleton] at h
      exact .inr ⟨part, List.mem_cons_self, h⟩
    | cons next parts =>
      rw [List.intercalate_cons_cons, List.append_assoc, List.singleton_append] at h
      rcases List.mem_append.mp h with h | h
      · exact .inr ⟨part, List.mem_cons_self, h⟩
      · rcases List.mem_cons.mp h with h | h
        · exact .inl h
        · obtain same | ⟨other, member, h⟩ := ih h
          · exact .inl same
          · exact .inr ⟨other, List.mem_cons_of_mem _ member, h⟩

theorem cutAt_append_cons {separator : Char} {before : List Char} (h : separator ∉ before)
    (after : List Char) : cutAt separator (before ++ separator :: after) = some (before, after) := by
  induction before with
  | nil => simp [cutAt]
  | cons c before ih =>
    have hc : c ≠ separator := fun e => h (e ▸ List.mem_cons_self)
    have rest := ih fun m => h (List.mem_cons_of_mem _ m)
    simp [cutAt, hc, rest]

theorem cutAt_append (separator : Char) (cs ds : List Char) :
    cutAt separator (cs ++ ds)
      = match cutAt separator cs with
        | some (before, after) => some (before, after ++ ds)
        | none => (cutAt separator ds).map fun (before, after) => (cs ++ before, after) := by
  induction cs with
  | nil => simp [cutAt]
  | cons c cs ih =>
    rw [List.cons_append, cutAt, cutAt]
    split
    · rfl
    · rw [ih]
      cases cutAt separator cs with
      | none => exact Option.map_map ..
      | some found => rfl

theorem cutAt_append_of_notMem {separator : Char} {ds : List Char} (h : separator ∉ ds)
    (cs : List Char) :
    cutAt separator (cs ++ ds)
      = (cutAt separator cs).map fun (before, after) => (before, after ++ ds) := by
  rw [cutAt_append, cutAt_eq_none_iff.mpr h]
  cases cutAt separator cs with
  | none => rfl
  | some found => rfl

theorem length_lt_of_cutAt {separator : Char} {cs before after : List Char}
    (h : cutAt separator cs = some (before, after)) : after.length < cs.length := by
  obtain ⟨rfl, -⟩ := eq_append_of_cutAt h
  simp
  omega

/-- The text behind the given start, if the text starts so. -/
def behind? : List Char → List Char → Option (List Char)
  | [], cs => some cs
  | _ :: _, [] => none
  | c :: start, d :: cs => if c = d then behind? start cs else none

theorem behind?_append (start cs : List Char) : behind? start (start ++ cs) = some cs := by
  induction start with
  | nil => rfl
  | cons c start ih => simp [behind?, ih]

theorem behind?_of_ne {c d : Char} (h : c ≠ d) (start cs : List Char) :
    behind? (c :: start) (d :: cs) = none := by
  rw [behind?, if_neg h]

/-- Reads items up to the given end of the text. Each item takes a part of the text away. -/
def readAll? {α : Type} (read? : List Char → Option (α × List Char)) (ending cs : List Char) :
    Option (List α) :=
  if cs = ending then some []
  else
    match read? cs with
    | some (item, rest) =>
      if rest.length < cs.length then (readAll? read? ending rest).map (item :: ·) else none
    | none => none
termination_by cs.length

theorem readAll?_flatMap {α β : Type} {read? : List Char → Option (α × List Char)}
    {ending : List Char} {text : β → List Char} {value : β → α} {items : List β}
    (nonempty : ∀ item ∈ items, text item ≠ [])
    (further : ∀ item ∈ items, ∀ rest, text item ++ rest ≠ ending)
    (reads : ∀ item ∈ items, ∀ rest, read? (text item ++ rest) = some (value item, rest)) :
    readAll? read? ending (items.flatMap text ++ ending) = some (items.map value) := by
  induction items with
  | nil =>
    rw [readAll?]
    exact if_pos rfl
  | cons item items ih =>
    have rest := ih (fun i hi => nonempty i (List.mem_cons_of_mem _ hi))
      (fun i hi => further i (List.mem_cons_of_mem _ hi))
      (fun i hi => reads i (List.mem_cons_of_mem _ hi))
    have shorter := List.length_pos_iff.mpr (nonempty item List.mem_cons_self)
    rw [List.flatMap_cons, List.append_assoc, readAll?,
      if_neg (further item List.mem_cons_self _), reads item List.mem_cons_self]
    simp only
    rw [if_pos (by simp only [List.length_append]; omega), rest]
    rfl

end Typescribe.Text
