import Mathlib.Data.List.Basic
import Typescribe.Proofs.Text.Ascii
import Typescribe.Proofs.Text.Split
import Typescribe.Rest.Address

/-!
This module contains the paths that are made of percent-encoded segments. Behind another path they
stay as they are when that is encoded and freed of its points.
-/

namespace Typescribe

open Text

namespace Text

/-- A segment with a meaning of its own in a path. -/
def IsPoint (segment : List Char) : Prop :=
  segment = ['.'] ∨ segment = ['.', '.']

instance (segment : List Char) : Decidable (IsPoint segment) :=
  inferInstanceAs (Decidable (_ ∨ _))

theorem percentEncode_inj {cs ds : List Char} (h : percentEncode cs = percentEncode ds) :
    cs = ds := by
  have decoded := percentDecode_percentEncode cs
  rw [h, percentDecode_percentEncode] at decoded
  exact (Option.some.inj decoded).symm

theorem isPoint_of_percentEncode {cs : List Char} (h : IsPoint (percentEncode cs)) :
    IsPoint cs := by
  rcases h with one | two
  · exact .inl (percentEncode_inj (one.trans (by decide)))
  · exact .inr (percentEncode_inj (two.trans (by decide)))

theorem flatMap_percentByte_ne_nil (c : Char) : (encodeUtf8Char c).flatMap percentByte ≠ [] := by
  unfold encodeUtf8Char
  simp only
  split
  · simp [percentByte]
  · split
    · simp [percentByte]
    · split <;> simp [percentByte]

theorem length_le_length_percentEncode (cs : List Char) :
    cs.length ≤ (percentEncode cs).length := by
  induction cs with
  | nil => exact Nat.le_refl 0
  | cons c cs ih =>
    have char : 1 ≤ (if isUnreserved c then [c]
        else (encodeUtf8Char c).flatMap percentByte).length := by
      split
      · exact Nat.le_refl 1
      · exact List.length_pos_iff.mpr (flatMap_percentByte_ne_nil c)
    rw [percentEncode, List.flatMap_cons, List.length_append, ← percentEncode, List.length_cons]
    omega

theorem notMem_percentEncode {c : Char} (reserved : isUnreserved c = false) (h : c ≠ '%')
    (cs : List Char) : c ∉ percentEncode cs := by
  intro mem
  rcases mem_percentEncode mem with free | mark
  · rw [reserved] at free
    cases free
  · exact h mark

/-- A path with the given segments. -/
def pathOf (segments : List (List Char)) : List Char :=
  segments.flatMap fun segment => '/' :: percentEncode segment

@[simp]
theorem pathOf_nil : pathOf [] = [] := rfl

theorem pathOf_cons (segment : List Char) (segments : List (List Char)) :
    pathOf (segment :: segments) = '/' :: (percentEncode segment ++ pathOf segments) := rfl

theorem isUnreserved_or_of_mem_pathOf {segments : List (List Char)} {c : Char}
    (h : c ∈ pathOf segments) : isUnreserved c ∨ c = '%' ∨ c = '/' := by
  obtain ⟨segment, -, h⟩ := List.mem_flatMap.mp h
  rcases List.mem_cons.mp h with slash | h
  · exact .inr (.inr slash)
  · exact (mem_percentEncode h).imp_right .inl

theorem notMem_pathOf {c : Char} (reserved : isUnreserved c = false) (percent : c ≠ '%')
    (slash : c ≠ '/') (segments : List (List Char)) : c ∉ pathOf segments := by
  intro mem
  rcases isUnreserved_or_of_mem_pathOf mem with free | rfl | rfl
  · rw [reserved] at free
    cases free
  · exact percent rfl
  · exact slash rfl

theorem count_slash_pathOf (segments : List (List Char)) :
    (pathOf segments).count '/' = segments.length := by
  induction segments with
  | nil => rfl
  | cons segment segments ih =>
    have plain := notMem_percentEncode (c := '/') (by decide) (by decide) segment
    rw [pathOf_cons, List.count_cons_self, List.count_append, List.count_eq_zero.mpr plain, ih,
      Nat.zero_add, List.length_cons]

theorem splitAt_append_pathOf (front : List Char) (segments : List (List Char)) :
    splitAt '/' (front ++ pathOf segments)
      = splitAt '/' front ++ segments.map percentEncode := by
  induction segments generalizing front with
  | nil => simp
  | cons segment segments ih =>
    have plain := notMem_percentEncode (c := '/') (by decide) (by decide) segment
    rw [pathOf_cons, splitAt_append_separator, ih, splitAt_of_not_mem plain]
    rfl

theorem intercalate_append_percentEncode {front : List (List Char)} (nonempty : front ≠ [])
    (segments : List (List Char)) :
    List.intercalate ['/'] (front ++ segments.map percentEncode)
      = List.intercalate ['/'] front ++ pathOf segments := by
  obtain ⟨part, parts, rfl⟩ := List.exists_cons_of_ne_nil nonempty
  rw [List.cons_append, intercalate_cons_eq, intercalate_cons_eq, List.flatMap_append,
    List.flatMap_map, List.append_assoc]
  rfl

theorem pathOf_inj {segments others : List (List Char)} (h : pathOf segments = pathOf others) :
    segments = others := by
  have split := splitAt_append_pathOf [] segments
  rw [h, splitAt_append_pathOf] at split
  exact List.map_injective_iff.mpr (fun _ _ => percentEncode_inj)
    (List.append_cancel_left split).symm

end Text

namespace Rest.Address

/-! ### Encoding -/

/-- Reserved characters none of which stands for itself in a path. -/
def LeavesPaths (reserved : List Char) : Prop :=
  ∀ c ∈ reserved, isUnreserved c = false ∧ c ≠ '/'

instance (reserved : List Char) : Decidable (LeavesPaths reserved) :=
  List.decidableBAll (fun c => isUnreserved c = false ∧ c ≠ '/') reserved

theorem leavesPaths_pathReserved : LeavesPaths pathReserved := by
  decide

theorem leavesPaths_queryReserved : LeavesPaths queryReserved := by
  decide

theorem isGraphic_of_isUnreserved {c : Char} (h : isUnreserved c) :
    0x20 ≤ c.toNat ∧ c.toNat < 0x7F := by
  simp only [isUnreserved, Bool.or_eq_true, decide_eq_true_eq] at h
  rcases h with (((h | rfl) | rfl) | rfl) | rfl
  · exact forall_alphanum (P := fun c => 0x20 ≤ c.toNat ∧ c.toNat < 0x7F) (by decide +kernel) h
  all_goals decide

theorem encodeChar_of_notMem {reserved : List Char} {c : Char} (graphic : 0x20 ≤ c.toNat)
    (ascii : c.toNat < 0x7F) (free : c ∉ reserved) : encodeChar reserved c = [c] := by
  rw [encodeChar, if_pos (by simp [graphic, ascii, free])]

theorem encode_cons {reserved : List Char} {c : Char} (h : c ≠ '%') (cs : List Char) :
    encode reserved (c :: cs) = encodeChar reserved c ++ encode reserved cs := by
  rw [encode]
  exact fun _ _ _ mark => absurd mark h

theorem encode_ne_nil {cs : List Char} (h : cs ≠ []) (reserved : List Char) :
    encode reserved cs ≠ [] := by
  have char (c : Char) : encodeChar reserved c ≠ [] := by
    unfold encodeChar
    split
    · simp
    · exact flatMap_percentByte_ne_nil c
  fun_cases encode reserved cs with
  | case1 => exact absurd rfl h
  | case2 => exact List.cons_ne_nil _ _
  | case3 => simp [char]
  | case4 => simp [char]

theorem encode_append_slash (reserved cs ds : List Char) :
    encode reserved (cs ++ '/' :: ds) = encode reserved cs ++ encode reserved ('/' :: ds) := by
  fun_induction encode reserved cs with
  | case1 => rfl
  | case2 high low rest digits ih =>
    rw [List.cons_append, List.cons_append, List.cons_append, encode, if_pos digits, ih]
    rfl
  | case3 high low rest digits ih =>
    rw [List.cons_append, List.cons_append, List.cons_append, encode, if_neg digits,
      List.append_assoc, ← ih]
    rfl
  | case4 c rest other ih =>
    -- A percent sign that is followed by a slash too early encodes nothing.
    have step : encode reserved (c :: (rest ++ '/' :: ds))
        = encodeChar reserved c ++ encode reserved (rest ++ '/' :: ds) := by
      by_cases mark : c = '%'
      · subst mark
        match rest with
        | [] =>
          cases ds with
          | nil => rfl
          | cons d ds => rfl
        | [high] =>
          rw [List.cons_append, List.nil_append, encode, if_neg]
          simp [hexValue?]
        | high :: low :: rest => exact (other high low rest rfl rfl).elim
      · exact encode_cons mark _
    rw [List.cons_append, step, ih, List.append_assoc]

theorem encode_percentByte_append {byte : Nat} (h : byte < 256) (reserved rest : List Char) :
    encode reserved (percentByte byte ++ rest) = percentByte byte ++ encode reserved rest := by
  have high := hexValue?_upperHexDigit (n := byte / 16) (by omega)
  have low := hexValue?_upperHexDigit (n := byte % 16) (by omega)
  simp [percentByte, encode, high, low]

theorem encode_percentBytes_append {bytes : List Nat} (h : ∀ byte ∈ bytes, byte < 256)
    (reserved rest : List Char) :
    encode reserved (bytes.flatMap percentByte ++ rest)
      = bytes.flatMap percentByte ++ encode reserved rest := by
  induction bytes with
  | nil => rfl
  | cons byte bytes ih =>
    rw [List.flatMap_cons, List.append_assoc,
      encode_percentByte_append (h byte List.mem_cons_self),
      ih fun b hb => h b (List.mem_cons_of_mem _ hb), List.append_assoc]

variable {reserved : List Char}

theorem encode_percentEncode_append (leaves : LeavesPaths reserved) (cs rest : List Char) :
    encode reserved (percentEncode cs ++ rest) = percentEncode cs ++ encode reserved rest := by
  induction cs with
  | nil => rfl
  | cons c cs ih =>
    have whole : percentEncode (c :: cs)
        = (if isUnreserved c then [c] else (encodeUtf8Char c).flatMap percentByte)
          ++ percentEncode cs := rfl
    rw [whole]
    split
    · next free =>
      obtain ⟨graphic, ascii⟩ := isGraphic_of_isUnreserved free
      have notMark : c ≠ '%' := by rintro rfl; simp [isUnreserved] at free
      have notReserved : c ∉ reserved := by
        intro mem
        rw [(leaves c mem).1] at free
        cases free
      rw [List.singleton_append, List.cons_append, encode_cons notMark, ih,
        encodeChar_of_notMem graphic ascii notReserved]
      rfl
    · rw [List.append_assoc, encode_percentBytes_append fun _ => encodeUtf8Char_lt, ih,
        List.append_assoc]

theorem encode_pathOf (leaves : LeavesPaths reserved) (segments : List (List Char)) :
    encode reserved (pathOf segments) = pathOf segments := by
  have slash : encodeChar reserved '/' = ['/'] :=
    encodeChar_of_notMem (by decide) (by decide) fun mem => (leaves _ mem).2 rfl
  induction segments with
  | nil => rfl
  | cons segment segments ih =>
    rw [pathOf_cons, encode_cons (by decide), slash, encode_percentEncode_append leaves, ih]
    rfl

theorem slash_mem_encode (leaves : LeavesPaths reserved) {cs : List Char} (h : '/' ∈ cs) :
    '/' ∈ encode reserved cs := by
  obtain ⟨before, after, rfl⟩ := List.mem_iff_append.mp h
  have slash : encodeChar reserved '/' = ['/'] :=
    encodeChar_of_notMem (by decide) (by decide) fun mem => (leaves _ mem).2 rfl
  rw [encode_append_slash, encode_cons (by decide), slash]
  simp

theorem encode_append_pathOf (leaves : LeavesPaths reserved) (cs : List Char)
    (segments : List (List Char)) :
    encode reserved (cs ++ pathOf segments) = encode reserved cs ++ pathOf segments := by
  cases segments with
  | nil => simp
  | cons segment segments =>
    rw [pathOf_cons, encode_append_slash, ← pathOf_cons, encode_pathOf leaves]

/-! ### Points -/

theorem dropPoints_append {back : List (List Char)} (h : ∀ segment ∈ back, ¬IsPoint segment)
    (kept front : List (List Char)) :
    dropPoints kept (front ++ back) = dropPoints kept front ++ back := by
  have whole : ∀ kept, dropPoints kept back = kept.reverse ++ back := by
    induction back with
    | nil => simp [dropPoints]
    | cons segment back ih =>
      obtain ⟨first, others⟩ := List.forall_mem_cons.mp h
      obtain ⟨one, two⟩ := not_or.mp first
      intro kept
      rw [dropPoints, if_neg one, if_neg two, ih others, List.reverse_cons, List.append_assoc]
      rfl
  induction front generalizing kept with
  | nil => exact whole kept
  | cons segment front ih =>
    rw [List.cons_append, dropPoints, dropPoints]
    split
    · exact ih kept
    · split
      · exact ih _
      · exact ih _

end Rest.Address

end Typescribe
