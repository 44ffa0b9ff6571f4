import Mathlib.Data.List.Forall2
import Typescribe.Proofs.Decimal.Digits
import Typescribe.Proofs.Json.Reader
import Typescribe.Proofs.Ordered
import Typescribe.Proofs.Text.Ascii

/-!
This module contains the reading of written JSON values: what is built from null, truth values,
whole numbers, texts, lists and mappings is read back as it was, at any depth and whatever follows.
-/

namespace Typescribe.Json

def isSpace (c : Char) : Bool :=
  c = ' ' || c = '\t' || c = '\n' || c = '\r'

theorem skipSpace_cons {c : Char} (h : isSpace c = false) (cs : List Char) :
    skipSpace (c :: cs) = c :: cs := by
  unfold skipSpace
  exact List.dropWhile_cons_of_neg (Bool.not_eq_true _ ▸ h)

theorem skipSpace_space_cons (cs : List Char) : skipSpace (' ' :: cs) = skipSpace cs :=
  List.dropWhile_cons_of_pos rfl

/-! ### Whole numbers -/

/-- A text that does not go on a number in front of it. -/
def EndsNumber (cs : List Char) : Prop :=
  ∀ c ∈ cs.head?, c.isDigit = false ∧ c ≠ '.' ∧ c ≠ 'e' ∧ c ≠ 'E'

theorem endsNumber_nil : EndsNumber [] := by
  intro c hc
  cases hc

theorem endsNumber_cons {c : Char} {cs : List Char} (h : c ∈ [',', ']', '\x7d']) :
    EndsNumber (c :: cs) := by
  have all : ∀ d ∈ [',', ']', '\x7d'], d.isDigit = false ∧ d ≠ '.' ∧ d ≠ 'e' ∧ d ≠ 'E' :=
    Text.forall_mem_of_all rfl
  intro d hd
  cases hd
  exact all c h

variable {rest : List Char}

theorem EndsNumber.readFraction (h : EndsNumber rest) : readFraction rest = none := by
  unfold Json.readFraction
  split
  · next tail => exact absurd rfl (h '.' rfl).2.1
  · rfl

theorem EndsNumber.readExponent (h : EndsNumber rest) : readExponent rest = none := by
  cases rest with
  | nil => rfl
  | cons c rest =>
    obtain ⟨-, -, small, large⟩ := h c rfl
    unfold Json.readExponent
    exact if_neg (by simp [small, large])

theorem EndsNumber.takeWhile (h : EndsNumber rest) : rest.takeWhile Char.isDigit = [] := by
  cases rest with
  | nil => rfl
  | cons c rest => exact List.takeWhile_cons_of_neg (Bool.not_eq_true _ ▸ (h c rfl).1)

theorem EndsNumber.dropWhile (h : EndsNumber rest) : rest.dropWhile Char.isDigit = rest := by
  cases rest with
  | nil => rfl
  | cons c rest => exact List.dropWhile_cons_of_neg (Bool.not_eq_true _ ▸ (h c rfl).1)

theorem readWhole_toDigits (n : Nat) (h : EndsNumber rest) :
    readWhole (Nat.toDigits 10 n ++ rest) = some (Nat.toDigits 10 n, rest) := by
  rcases Nat.eq_zero_or_pos n with rfl | positive
  · rfl
  · have digits : ∀ c ∈ Nat.toDigits 10 n, c.isDigit := Decimal.isDigit_of_mem_toDigits
    obtain ⟨c, cs, written, notZero⟩ := Decimal.exists_toDigits_of_pos positive
    rw [written] at digits ⊢
    have later : ∀ d ∈ cs, d.isDigit := fun d hd => digits d (List.mem_cons_of_mem _ hd)
    rw [List.cons_append, readWhole.eq_2 _ _ (fun same => notZero same),
      if_pos (digits c List.mem_cons_self), List.takeWhile_append_of_pos later,
      List.dropWhile_append_of_pos later, h.takeWhile, h.dropWhile, List.append_nil]

theorem readNumber_of_readWhole {cs whole : List Char} (isNegative : Bool)
    (unsigned : cs.head? ≠ some '-') (read : readWhole cs = some (whole, rest))
    (short : whole.length ≤ Decimal.maxDigits) (h : EndsNumber rest) :
    readNumber ((if isNegative then ['-'] else []) ++ cs)
      = .ok (.int (if isNegative then -Decimal.ofDigits whole else Decimal.ofDigits whole), rest) := by
  have notLong := Nat.not_lt.mpr short
  cases isNegative with
  | true =>
    simp only [readNumber, if_true, List.singleton_append, read, h.readFraction, h.readExponent,
      Option.map_none, Option.getD_none, Option.isNone_none, Bool.and_self, if_neg notLong]
    rfl
  | false =>
    rw [if_neg Bool.false_ne_true, if_neg Bool.false_ne_true, List.nil_append]
    unfold readNumber
    split
    next negative cs' sign =>
    split at sign
    · exact absurd rfl unsigned
    · cases sign
      simp only [read, h.readFraction, h.readExponent, Bool.false_eq_true, if_false, if_true,
        Option.map_none, Option.getD_none, Option.isNone_none, Bool.and_self, if_neg notLong]
      rfl

theorem exists_toDigits (n : Nat) : ∃ c cs, Nat.toDigits 10 n = c :: cs ∧ c.isDigit := by
  have notEmpty : Nat.toDigits 10 n ≠ [] := Nat.toDigits_ne_nil
  obtain ⟨c, cs, digits⟩ := List.exists_cons_of_ne_nil notEmpty
  exact ⟨c, cs, digits, Decimal.isDigit_of_mem_toDigits c (digits ▸ List.mem_cons_self)⟩

theorem readNumber_toString {n : Int} (printable : Decimal.isPrintable n) (h : EndsNumber rest) :
    readNumber ((toString n).toList ++ rest) = .ok (.int n, rest) := by
  have unsigned : (Nat.toDigits 10 n.natAbs ++ rest).head? ≠ some '-' := by
    obtain ⟨c, cs, digits, isDigit⟩ := exists_toDigits n.natAbs
    rw [digits]
    intro same
    cases same
    cases isDigit
  have number := readNumber_of_readWhole (decide (n < 0)) unsigned (readWhole_toDigits n.natAbs h)
    (Decimal.length_toDigits_le_of_isPrintable printable) h
  rw [Decimal.ofDigits_toDigits] at number
  rw [Decimal.toList_toString, List.append_assoc]
  by_cases sign : 0 ≤ n
  · have notNegative : decide (n < 0) = false := decide_eq_false (by omega)
    rw [notNegative, if_neg Bool.false_ne_true, if_neg Bool.false_ne_true] at number
    rw [if_pos sign, number, show (n.natAbs : Int) = n by omega]
  · have negative : decide (n < 0) = true := decide_eq_true (by omega)
    rw [negative, if_pos rfl, if_pos rfl] at number
    rw [if_neg sign, number, show -(n.natAbs : Int) = n by omega]

theorem readAtom_of_isDigit {c : Char} (h : c.isDigit) (cs : List Char) :
    readAtom (c :: cs) = readNumber (c :: cs) := by
  unfold readAtom
  split <;> first | rfl | (next same => cases same; cases h)

theorem readAtom_minus_of_isDigit {c : Char} (h : c.isDigit) (cs : List Char) :
    readAtom ('-' :: c :: cs) = readNumber ('-' :: c :: cs) := by
  unfold readAtom
  split <;> first | rfl | (next same => cases same) | (next same => cases same; cases h)

/-- A text that starts neither with white space nor with the end of a list or of a mapping. -/
def IsOpening (cs : List Char) : Prop :=
  ∃ c tail, cs = c :: tail ∧ isSpace c = false ∧ c ≠ ']' ∧ c ≠ '\x7d'

theorem IsOpening.append {cs : List Char} (h : IsOpening cs) (more : List Char) :
    IsOpening (cs ++ more) := by
  obtain ⟨c, tail, rfl, rest⟩ := h
  exact ⟨c, tail ++ more, rfl, rest⟩

theorem IsOpening.skipSpace {cs : List Char} (h : IsOpening cs) : skipSpace cs = cs := by
  obtain ⟨c, tail, rfl, notSpace, -⟩ := h
  exact skipSpace_cons notSpace tail

/-- The text of a value, which is read as that value wherever it stands. -/
structure ReadsAs (cs : List Char) (value : Value) : Prop where
  opening : IsOpening cs
  read {fuel : Nat} {rest : List Char} (enough : cs.length < fuel) (ends : EndsNumber rest) :
    readValue fuel (cs ++ rest) = .ok (value, rest)

theorem readsAs_of_readAtom {cs : List Char} {value : Value}
    (opening : IsOpening cs) (atom : ∀ c ∈ cs.head?, c ≠ '"' ∧ c ≠ '[' ∧ c ≠ '\x7b')
    (read : ∀ rest, EndsNumber rest → readAtom (cs ++ rest) = .ok (value, rest)) :
    ReadsAs cs value where
  opening := opening
  read := by
    intro fuel rest enough ends
    obtain ⟨c, tail, rfl, -⟩ := opening
    obtain ⟨quote, list, mapping⟩ := atom c rfl
    obtain ⟨fuel, rfl⟩ := Nat.exists_eq_add_of_lt enough
    rw [← read rest ends, List.cons_append]
    exact readValue.eq_5 _ _ (fun _ same => quote (List.cons.inj same).1)
      (fun _ same => list (List.cons.inj same).1) fun _ same => mapping (List.cons.inj same).1

theorem readsAs_null : ReadsAs "null".toList .null :=
  readsAs_of_readAtom ⟨_, _, rfl, by decide⟩ (by rintro _ ⟨⟩; decide) fun _ _ => rfl

theorem readsAs_true : ReadsAs "true".toList (.bool true) :=
  readsAs_of_readAtom ⟨_, _, rfl, by decide⟩ (by rintro _ ⟨⟩; decide) fun _ _ => rfl

theorem readsAs_false : ReadsAs "false".toList (.bool false) :=
  readsAs_of_readAtom ⟨_, _, rfl, by decide⟩ (by rintro _ ⟨⟩; decide) fun _ _ => rfl

theorem isOpening_of_isDigit {c : Char} (h : c.isDigit) (cs : List Char) : IsOpening (c :: cs) := by
  refine ⟨c, cs, rfl, ?_, ?_, ?_⟩
  · by_contra space
    simp only [isSpace, Bool.not_eq_false, Bool.or_eq_true, decide_eq_true_eq] at space
    obtain ((rfl | rfl) | rfl) | rfl := space <;> cases h
  · rintro rfl
    cases h
  · rintro rfl
    cases h

theorem readsAs_int {n : Int} (printable : Decimal.isPrintable n) :
    ReadsAs (toString n).toList (.int n) := by
  obtain ⟨c, cs, digits, isDigit⟩ := exists_toDigits n.natAbs
  have written : (toString n).toList = (if 0 ≤ n then [] else ['-']) ++ c :: cs := by
    rw [Decimal.toList_toString, digits]
  have number : ∀ rest, EndsNumber rest →
      readNumber ((toString n).toList ++ rest) = .ok (.int n, rest) :=
    fun _ ends => readNumber_toString printable ends
  rw [written] at number ⊢
  split at number
  · next sign =>
    rw [if_pos sign]
    apply readsAs_of_readAtom (isOpening_of_isDigit isDigit cs)
    · rintro d hd
      cases hd
      refine ⟨?_, ?_, ?_⟩ <;> rintro rfl <;> cases isDigit
    · intro rest ends
      exact (readAtom_of_isDigit isDigit _).trans (number rest ends)
  · next sign =>
    rw [if_neg sign]
    refine readsAs_of_readAtom ⟨_, _, rfl, by decide⟩ ?_ ?_
    · rintro d hd
      cases hd
      decide
    · intro rest ends
      exact (readAtom_minus_of_isDigit isDigit _).trans (number rest ends)

/-! ### Texts, lists and mappings -/

theorem toList_quote (s : String) :
    (quote s).toList = '"' :: s.toList.flatMap escapeChar ++ ['"'] :=
  String.toList_ofList

theorem readString_quote (s : String) (rest : List Char) :
    readString (s.toList.flatMap escapeChar ++ ['"'] ++ rest) = .ok (s.toList, rest) := by
  rw [List.append_assoc]
  exact readString_escaped s.toList rest

theorem isOpening_quote (s : String) : IsOpening (quote s).toList := by
  rw [toList_quote]
  exact ⟨_, _, rfl, by decide⟩

theorem readsAs_text (s : String) : ReadsAs (quote s).toList (.text s) where
  opening := isOpening_quote s
  read := by
    intro fuel rest enough ends
    obtain ⟨fuel, rfl⟩ := Nat.exists_eq_add_of_lt enough
    rw [toList_quote, List.cons_append, List.cons_append, readValue.eq_2, readString_quote]
    exact congrArg (fun s => Except.ok (Value.text s, rest)) String.ofList_toList

/-- What stands between two items, and between two members. -/
def separator : List Char :=
  [',', ' ']

theorem isOpening_intercalate {cs : List Char} (h : IsOpening cs) (others : List (List Char)) :
    IsOpening (separator.intercalate (cs :: others)) := by
  cases others with
  | nil => rwa [List.intercalate_singleton]
  | cons next others =>
    rw [List.intercalate_cons_cons, List.append_assoc]
    exact h.append _

section Items

variable {text inner : List Char} {item : Value} {items : List Value} {fuel : Nat}

theorem readItems_last (h : ReadsAs text item) (enough : text.length < fuel) :
    readItems (fuel + 1) (text ++ ']' :: rest) = .ok ([item], rest) := by
  rw [readItems.eq_2, h.read enough (endsNumber_cons (by decide))]
  simp only [bind, Except.bind, skipSpace_cons (show isSpace ']' = false from rfl)]
  rfl

theorem readItems_cons (h : ReadsAs text item) (enough : text.length < fuel)
    (opening : IsOpening inner) (others : readItems fuel inner = .ok (items, rest)) :
    readItems (fuel + 1) (text ++ (separator ++ inner)) = .ok (item :: items, rest) := by
  rw [readItems.eq_2, separator, List.cons_append, h.read enough (endsNumber_cons (by decide))]
  simp only [bind, Except.bind, skipSpace_cons (show isSpace ',' = false from rfl),
    List.singleton_append, skipSpace_space_cons, opening.skipSpace, others]
  rfl

theorem readItems_intercalate {texts : List (List Char)} (h : List.Forall₂ ReadsAs texts items)
    (notEmpty : items ≠ []) (enough : (separator.intercalate texts).length + 1 < fuel)
    (rest : List Char) :
    readItems fuel (separator.intercalate texts ++ ']' :: rest) = .ok (items, rest) := by
  induction h generalizing fuel with
  | nil => exact absurd rfl notEmpty
  | @cons text _ texts _ head tail ih =>
    obtain ⟨fuel, rfl⟩ : ∃ less, fuel = less + 1 := ⟨fuel - 1, by omega⟩
    cases tail with
    | nil =>
      rw [List.intercalate_singleton] at enough ⊢
      exact readItems_last head (by omega)
    | @cons next _ texts _ first others =>
      have opening : IsOpening (separator.intercalate (next :: texts) ++ ']' :: rest) :=
        (isOpening_intercalate first.opening texts).append _
      rw [List.intercalate_cons_cons, List.append_assoc, List.length_append,
        List.length_append] at enough
      rw [List.intercalate_cons_cons, List.append_assoc, List.append_assoc]
      have shorter : separator.length = 2 := rfl
      exact readItems_cons head (by omega) opening (ih (List.cons_ne_nil _ _) (by omega))

end Items

section Members

/-- The text of a member of a mapping. -/
def memberText (name : String) (text : List Char) : List Char :=
  (quote name).toList ++ [':', ' '] ++ text

variable {name : String} {text inner : List Char} {value : Value}
  {members : List (String × Value)} {fuel : Nat}

theorem isOpening_memberText (name : String) (text : List Char) :
    IsOpening (memberText name text) :=
  ((isOpening_quote name).append _).append _

theorem readMembers_memberText (h : ReadsAs text value) (enough : text.length < fuel)
    {c : Char} (ends : c ∈ [',', ']', '\x7d']) :
    readMembers (fuel + 1) (memberText name text ++ c :: rest)
      = match c :: rest with
        | '}' :: after => .ok ([(name, value)], after)
        | ',' :: rest => do
          let (members, after) ← readMembers fuel (skipSpace rest)
          return ((name, value) :: members, after)
        | _ => .error .malformed := by
  have notSpace : isSpace c = false := by
    have all : ∀ d ∈ [',', ']', '\x7d'], isSpace d = false := Text.forall_mem_of_all rfl
    exact all c ends
  rw [memberText, toList_quote, List.append_assoc, List.append_assoc, List.cons_append,
    List.cons_append, readMembers.eq_2, readString_quote]
  simp only [bind, Except.bind, List.cons_append, List.nil_append,
    skipSpace_cons (show isSpace ':' = false from rfl), skipSpace_space_cons,
    (h.opening.append _).skipSpace, h.read enough (endsNumber_cons ends), skipSpace_cons notSpace,
    String.ofList_toList]
  rfl

theorem readMembers_last (h : ReadsAs text value) (enough : text.length < fuel) :
    readMembers (fuel + 1) (memberText name text ++ '\x7d' :: rest) = .ok ([(name, value)], rest) :=
  readMembers_memberText h enough (by decide)

theorem readMembers_cons (h : ReadsAs text value) (enough : text.length < fuel)
    (opening : IsOpening inner) (others : readMembers fuel inner = .ok (members, rest)) :
    readMembers (fuel + 1) (memberText name text ++ (separator ++ inner))
      = .ok ((name, value) :: members, rest) := by
  rw [separator, List.cons_append, List.singleton_append,
    readMembers_memberText h enough (by decide)]
  simp only [skipSpace_space_cons, opening.skipSpace, others]
  rfl

/-- The text of a member with the given name and value. -/
def IsMemberText (cs : List Char) (member : String × Value) : Prop :=
  ∃ text, cs = memberText member.1 text ∧ ReadsAs text member.2

theorem IsMemberText.opening {cs : List Char} {member : String × Value}
    (h : IsMemberText cs member) : IsOpening cs := by
  obtain ⟨text, rfl, -⟩ := h
  exact isOpening_memberText member.1 text

theorem readMembers_intercalate {texts : List (List Char)}
    (h : List.Forall₂ IsMemberText texts members) (notEmpty : members ≠ [])
    (enough : (separator.intercalate texts).length < fuel) (rest : List Char) :
    readMembers fuel (separator.intercalate texts ++ '\x7d' :: rest) = .ok (members, rest) := by
  have longer (name : String) (text : List Char) :
      text.length + 2 ≤ (memberText name text).length := by
    simp only [memberText, List.length_append, List.length_cons]
    omega
  induction h generalizing fuel with
  | nil => exact absurd rfl notEmpty
  | @cons _ member texts _ head tail ih =>
    obtain ⟨text, rfl, read⟩ := head
    have := longer member.1 text
    obtain ⟨fuel, rfl⟩ : ∃ less, fuel = less + 1 := ⟨fuel - 1, by omega⟩
    cases tail with
    | nil =>
      rw [List.intercalate_singleton] at enough ⊢
      exact readMembers_last read (by omega)
    | @cons next _ texts _ first others =>
      have opening : IsOpening (separator.intercalate (next :: texts) ++ '\x7d' :: rest) :=
        (isOpening_intercalate first.opening texts).append _
      rw [List.intercalate_cons_cons, List.append_assoc, List.length_append,
        List.length_append] at enough
      rw [List.intercalate_cons_cons, List.append_assoc, List.append_assoc]
      exact readMembers_cons read (by omega) opening (ih (List.cons_ne_nil _ _) (by omega))

end Members

theorem readsAs_list {texts : List (List Char)} {items : List Value}
    (h : List.Forall₂ ReadsAs texts items) :
    ReadsAs ('[' :: separator.intercalate texts ++ [']']) (.list items) where
  opening := ⟨_, _, rfl, by decide⟩
  read := by
    intro fuel rest enough ends
    obtain ⟨fuel, rfl⟩ : ∃ less, fuel = less + 1 := ⟨fuel - 1, by omega⟩
    rw [List.cons_append, List.cons_append, List.append_assoc, List.singleton_append,
      readValue.eq_3]
    cases h with
    | nil => rfl
    | @cons text _ texts _ head tail =>
      obtain ⟨c, cs, written, notSpace, notEnd, -⟩ := isOpening_intercalate head.opening texts
      have enough : (separator.intercalate (text :: texts)).length + 1 < fuel := by
        simpa using enough
      have inner := readItems_intercalate (.cons head tail) (List.cons_ne_nil _ _) enough rest
      rw [written, List.cons_append] at inner ⊢
      rw [skipSpace_cons notSpace]
      split
      · next same => exact absurd (List.cons.inj same).1 notEnd
      · rw [inner]
        rfl

theorem ofMembers_of_nodup {members : List (String × Value)} (h : (members.map (·.1)).Nodup) :
    ofMembers members = .mapping (members.map fun member => (.text member.1, member.2)) := by
  rw [ofMembers, Ordered.ofList_of_nodup h]

theorem readsAs_mapping {texts : List (List Char)} {members : List (String × Value)}
    (h : List.Forall₂ IsMemberText texts members) (nodup : (members.map (·.1)).Nodup) :
    ReadsAs ('\x7b' :: separator.intercalate texts ++ ['\x7d'])
      (.mapping (members.map fun member => (.text member.1, member.2))) where
  opening := ⟨_, _, rfl, by decide⟩
  read := by
    intro fuel rest enough ends
    obtain ⟨fuel, rfl⟩ : ∃ less, fuel = less + 1 := ⟨fuel - 1, by omega⟩
    rw [List.cons_append, List.cons_append, List.append_assoc, List.singleton_append,
      readValue.eq_4, ← ofMembers_of_nodup nodup]
    cases h with
    | nil => rfl
    | @cons text _ texts _ head tail =>
      obtain ⟨c, cs, written, notSpace, -, notEnd⟩ := isOpening_intercalate head.opening texts
      have enough : (separator.intercalate (text :: texts)).length < fuel := by
        simp only [List.length_append, List.length_cons] at enough
        omega
      have inner := readMembers_intercalate (.cons head tail) (List.cons_ne_nil _ _) enough rest
      rw [written, List.cons_append] at inner ⊢
      rw [skipSpace_cons notSpace]
      split
      · next same => exact absurd (List.cons.inj same).1 notEnd
      · rw [inner]
        rfl

/-! ### Written values -/

/--
A value that its JSON text tells in full: it is built from null, truth values, whole numbers that
have a text, texts, lists, and mappings from texts, in which no two members have one name.
-/
inductive IsExact : Value → Prop where
  | null : IsExact .null
  | bool (b : Bool) : IsExact (.bool b)
  | int {n : Int} (printable : Decimal.isPrintable n) : IsExact (.int n)
  | text (s : String) : IsExact (.text s)
  | list {items : List Value} (exact : ∀ item ∈ items, IsExact item) : IsExact (.list items)
  | mapping {members : List (String × Value)} (names : (members.map (·.1)).Nodup)
    (exact : ∀ member ∈ members, IsExact member.2) :
    IsExact (.mapping (members.map fun member => (.text member.1, member.2)))

/-- A value that is written as some text, which reads as it. -/
def IsWritten (value : Value) : Prop :=
  ∃ text, write value = .ok text ∧ ReadsAs text.toList value

theorem exists_writeItems {items : List Value} (h : ∀ item ∈ items, IsWritten item) :
    ∃ texts, writeItems items = .ok texts
      ∧ List.Forall₂ ReadsAs (texts.map String.toList) items := by
  induction items with
  | nil => exact ⟨[], rfl, .nil⟩
  | cons item items ih =>
    obtain ⟨text, written, read⟩ := h item List.mem_cons_self
    obtain ⟨texts, others, reads⟩ := ih fun item hi => h item (List.mem_cons_of_mem _ hi)
    refine ⟨text :: texts, ?_, .cons read reads⟩
    rw [writeItems, written, others]
    rfl

theorem exists_writePairs {members : List (String × Value)}
    (h : ∀ member ∈ members, IsWritten member.2) :
    ∃ texts, writePairs (members.map fun member => (.text member.1, member.2)) = .ok texts
      ∧ List.Forall₂ IsMemberText (texts.map String.toList) members := by
  induction members with
  | nil => exact ⟨[], rfl, .nil⟩
  | cons member members ih =>
    obtain ⟨text, written, read⟩ := h member List.mem_cons_self
    obtain ⟨texts, others, reads⟩ := ih fun member hm => h member (List.mem_cons_of_mem _ hm)
    refine ⟨(quote member.1 ++ ": " ++ text) :: texts, ?_, .cons ⟨text.toList, ?_, read⟩ reads⟩
    · rw [List.map_cons, writePairs, memberName, written, others]
      rfl
    · rw [String.toList_append, String.toList_append]
      rfl

theorem isWritten_of_isExact {value : Value} (h : IsExact value) : IsWritten value := by
  induction h with
  | null => exact ⟨"null", rfl, readsAs_null⟩
  | bool b =>
    cases b with
    | true => exact ⟨"true", rfl, readsAs_true⟩
    | false => exact ⟨"false", rfl, readsAs_false⟩
  | @int n printable =>
    refine ⟨toString n, ?_, readsAs_int printable⟩
    rw [write, writeWhole, if_pos printable]
  | text s => exact ⟨quote s, rfl, readsAs_text s⟩
  | list _ ih =>
    obtain ⟨texts, written, reads⟩ := exists_writeItems ih
    refine ⟨"[" ++ String.intercalate ", " texts ++ "]", ?_, ?_⟩
    · rw [write, written]
      rfl
    · rw [String.toList_append, String.toList_append, String.toList_intercalate]
      exact readsAs_list reads
  | mapping names _ ih =>
    obtain ⟨texts, written, reads⟩ := exists_writePairs ih
    refine ⟨"\x7b" ++ String.intercalate ", " texts ++ "\x7d", ?_, ?_⟩
    · rw [write, written]
      rfl
    · rw [String.toList_append, String.toList_append, String.toList_intercalate]
      exact readsAs_mapping reads names

/-- The text of a value reads as that value. -/
theorem read_of_readsAs {text : String} {value : Value} (h : ReadsAs text.toList value) :
    read text = .ok value := by
  have whole := h.read (Nat.lt_succ_self _) endsNumber_nil
  rw [List.append_nil] at whole
  rw [read, h.opening.skipSpace, whole]
  rfl

end Typescribe.Json
