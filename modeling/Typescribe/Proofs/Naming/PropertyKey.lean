import Mathlib.Data.List.Basic
import Typescribe.Naming.PropertyKey
import Typescribe.Proofs.Json.Reader
import Typescribe.Proofs.Text.Lines

/-!
This module contains a reader of the keys of members, and what it reads of written keys. A key
denotes its name unless the name is an identifier with a line feed behind it.
-/

namespace Typescribe.Naming

/-- Reads an identifier or a JSON string at the start of a text. Gives the name and the rest. -/
def readKey? : List Char → Option (String × List Char)
  | '"' :: rest =>
    match Json.readString rest with
    | .ok (name, rest) => some (String.ofList name, rest)
    | .error _ => none
  | cs =>
    if isIdentifier (cs.takeWhile isIdentifierRest) then
      some (String.ofList (cs.takeWhile isIdentifierRest), cs.dropWhile isIdentifierRest)
    else none

theorem isIdentifierRest_of_isIdentifierStart {c : Char} (h : isIdentifierStart c) :
    isIdentifierRest c := by
  simp only [isIdentifierStart, isIdentifierRest, Char.isAlphanum, Bool.or_eq_true] at *
  rcases h with (h | h) | h
  · exact .inl (.inl (.inl h))
  · exact .inl (.inr h)
  · exact .inr h

theorem isIdentifierRest_of_isIdentifier {cs : List Char} (h : isIdentifier cs) :
    ∀ c ∈ cs, isIdentifierRest c := by
  cases cs with
  | nil => simp
  | cons first rest =>
    obtain ⟨start, others⟩ : isIdentifierStart first ∧ ∀ c ∈ rest, isIdentifierRest c := by
      simpa [isIdentifier] using h
    intro c hc
    cases List.mem_cons.mp hc with
    | inl hc => exact hc ▸ isIdentifierRest_of_isIdentifierStart start
    | inr hc => exact others c hc

theorem readKey?_identifier {cs : List Char} (h : isIdentifier cs) {stop : Char}
    (hs : isIdentifierRest stop = false) (rest : List Char) :
    readKey? (cs ++ stop :: rest) = some (String.ofList cs, stop :: rest) := by
  have inside := isIdentifierRest_of_isIdentifier h
  have name : (cs ++ stop :: rest).takeWhile isIdentifierRest = cs := by
    rw [List.takeWhile_append_of_pos inside, List.takeWhile_cons_of_neg (by simp [hs])]
    simp
  have after : (cs ++ stop :: rest).dropWhile isIdentifierRest = stop :: rest := by
    rw [List.dropWhile_append_of_pos inside, List.dropWhile_cons_of_neg (by simp [hs])]
  unfold readKey?
  split
  · next quoted =>
    cases cs with
    | nil => cases h
    | cons first others =>
      cases quoted
      exact absurd (inside _ List.mem_cons_self) (by decide)
  · rw [name, after, if_pos h]

theorem readKey?_quote (name : String) (rest : List Char) :
    readKey? ((Json.quote name).toList ++ rest) = some (name, rest) := by
  rw [Json.quote, String.toList_ofList, List.cons_append, List.cons_append, readKey?,
    List.append_assoc, List.singleton_append, Json.readString_escaped]
  simp

/-- An identifier with one line feed behind it, which is taken for an identifier. -/
def IsFedIdentifier (name : String) : Prop :=
  ∃ identifier, isIdentifier identifier ∧ name.toList = identifier ++ ['\n']

theorem IsFedIdentifier.getLast? {name : String} (h : IsFedIdentifier name) :
    name.toList.getLast? = some '\n' := by
  obtain ⟨identifier, -, whole⟩ := h
  rw [whole]
  exact List.getLast?_concat

theorem isIdentifierLine_iff {name : String} :
    isIdentifierLine name.toList ↔ isIdentifier name.toList ∨ IsFedIdentifier name := by
  unfold isIdentifierLine IsFedIdentifier
  simp only [Bool.or_eq_true, Bool.and_eq_true, decide_eq_true_eq]
  apply or_congr_right
  constructor
  · rintro ⟨last, identifier⟩
    exact ⟨_, identifier, (List.dropLast_append_getLast? _ last).symm⟩
  · rintro ⟨identifier, h, whole⟩
    simpa [whole] using h

theorem readKey?_propertyKey {name : String} (h : ¬IsFedIdentifier name) (rest : List Char) :
    readKey? ((propertyKey name).toList ++ ':' :: rest) = some (name, ':' :: rest) := by
  unfold propertyKey
  split
  · next line =>
    have identifier := (isIdentifierLine_iff.mp line).resolve_right h
    rw [readKey?_identifier identifier rfl, String.ofList_toList]
  · exact readKey?_quote name _

/-- The key of an identifier with a line feed behind it is read as the identifier. -/
theorem exists_readKey?_propertyKey (name : String) (rest : List Char) :
    ∃ key behind, readKey? ((propertyKey name).toList ++ ':' :: rest) = some (key, behind)
      ∧ Text.trimStart behind = ':' :: rest ∧ (key = name ↔ ¬IsFedIdentifier name) := by
  by_cases fed : IsFedIdentifier name
  · have line := isIdentifierLine_iff.mpr (.inr fed)
    obtain ⟨identifier, h, whole⟩ := id fed
    have shorter : String.ofList identifier ≠ name := by
      intro same
      have length := congrArg List.length whole
      rw [← same, String.toList_ofList, List.length_append, List.length_singleton] at length
      omega
    rw [propertyKey, if_pos line, whole, List.append_assoc, List.singleton_append]
    exact ⟨_, _, readKey?_identifier h rfl _, rfl, iff_of_false shorter (not_not_intro fed)⟩
  · exact ⟨_, _, readKey?_propertyKey fed rest, rfl, iff_of_true rfl fed⟩

/--
A key that denotes a name: the name itself if it is an identifier, or else one JSON string, on one
line, that is read as the name.
-/
inductive IsKeyOf (name : String) : List Char → Prop where
  | identifier (h : isIdentifier name.toList) : IsKeyOf name name.toList
  | quoted {cs : List Char} (read : Json.readString (cs ++ ['"']) = .ok (name.toList, []))
    (line : ∀ c ∈ cs, Text.isLineTerminator c = false) : IsKeyOf name ('"' :: cs ++ ['"'])

theorem eq_of_isKeyOf {name other : String} {key : List Char} (h : IsKeyOf name key)
    (ho : IsKeyOf other key) : name = other := by
  generalize same : key = text at ho
  cases h with
  | identifier h =>
    cases ho with
    | identifier => exact String.toList_inj.mp same
    | quoted =>
      rw [same] at h
      cases h
  | quoted read =>
    cases ho with
    | identifier h =>
      rw [← same] at h
      cases h
    | quoted other =>
      have inner := List.append_cancel_right (List.cons.inj same).2
      rw [inner, other] at read
      exact String.toList_inj.mp (congrArg Prod.fst (Except.ok.inj read)).symm

theorem isLineTerminator_of_isIdentifierRest {c : Char} (h : isIdentifierRest c) :
    Text.isLineTerminator c = false := by
  rw [Bool.eq_false_iff]
  intro terminator
  simp only [Text.isLineTerminator, Bool.or_eq_true, decide_eq_true_eq] at terminator
  obtain ((rfl | rfl) | rfl) | rfl := terminator <;> cases h

theorem isLineTerminator_of_mem_escapeChar (c : Char) :
    ∀ d ∈ Json.escapeChar c, Text.isLineTerminator d = false := by
  have escape (n : Nat) : ∀ d ∈ Json.unicodeEscape n, Text.isLineTerminator d = false := by
    intro d hd
    have start : ∀ d ∈ ['\\', 'u'], Text.isLineTerminator d = false := Text.forall_mem_of_all rfl
    cases List.mem_append.mp (show d ∈ ['\\', 'u'] ++ Text.hex 4 n from hd) with
    | inl hd => exact start d hd
    | inr hd =>
      apply isLineTerminator_of_isIdentifierRest
      simp [isIdentifierRest, Text.isAlphanum_of_mem_hex d hd]
  have letter {d : Char} (h : Text.isLineTerminator d = false) :
      ∀ e ∈ ['\\', d], Text.isLineTerminator e = false :=
    List.forall_mem_cons.mpr ⟨rfl, List.forall_mem_singleton.mpr h⟩
  unfold Json.escapeChar
  simp only
  repeat' split
  · exact letter rfl
  · exact letter rfl
  · exact letter rfl
  · exact letter rfl
  · exact letter rfl
  · exact letter rfl
  · exact letter rfl
  · next printable =>
    intro d hd
    rw [List.mem_singleton.mp hd]
    exact Text.isLineTerminator_of_printable printable
  · exact escape _
  · intro d hd
    cases List.mem_append.mp hd with
    | inl hd => exact escape _ d hd
    | inr hd => exact escape _ d hd

theorem isKeyOf_quote (name : String) : IsKeyOf name (Json.quote name).toList := by
  rw [Json.quote, String.toList_ofList]
  apply IsKeyOf.quoted
  · exact Json.readString_escaped name.toList []
  · intro d hd
    obtain ⟨c, -, hd⟩ := List.mem_flatMap.mp hd
    exact isLineTerminator_of_mem_escapeChar c d hd

theorem IsKeyOf.line {name : String} {key : List Char} (h : IsKeyOf name key) :
    ∀ c ∈ key, Text.isLineTerminator c = false := by
  cases h with
  | identifier h =>
    intro c hc
    exact isLineTerminator_of_isIdentifierRest (isIdentifierRest_of_isIdentifier h c hc)
  | quoted _ line =>
    have quote : Text.isLineTerminator '"' = false := rfl
    simpa [or_imp, forall_and, quote] using line

theorem not_isKeyOf_of_isFedIdentifier {name other : String} (fed : IsFedIdentifier name) :
    ¬IsKeyOf other (propertyKey name).toList := by
  intro h
  have line := isIdentifierLine_iff.mpr (.inr fed)
  have newline : '\n' ∈ name.toList := List.mem_of_getLast? fed.getLast?
  rw [propertyKey, if_pos line] at h
  exact absurd (h.line '\n' newline) (by decide)

theorem isKeyOf_propertyKey_iff {name : String} :
    IsKeyOf name (propertyKey name).toList ↔ ¬IsFedIdentifier name := by
  refine ⟨fun h fed => not_isKeyOf_of_isFedIdentifier fed h, fun h => ?_⟩
  unfold propertyKey
  split
  · next line => exact .identifier ((isIdentifierLine_iff.mp line).resolve_right h)
  · exact isKeyOf_quote name

/-- No key denotes another name. -/
theorem eq_of_isKeyOf_propertyKey {name other : String}
    (h : IsKeyOf other (propertyKey name).toList) : other = name := by
  have notFed : ¬IsFedIdentifier name := fun fed => not_isKeyOf_of_isFedIdentifier fed h
  exact eq_of_isKeyOf h (isKeyOf_propertyKey_iff.mpr notFed)

end Typescribe.Naming
