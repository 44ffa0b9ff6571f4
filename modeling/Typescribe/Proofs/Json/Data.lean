import Mathlib.Data.List.TakeWhile
import Typescribe.Proofs.Json.Writer
import Typescribe.Proofs.Step

/-!
This module contains the values that JSON texts hold, over different kinds of numbers. Writing such
a value fails only as writing one of its numbers does; and what is read from a text is such a value,
over the numbers that can be read.
-/

namespace Typescribe.Json

/--
A value that is built from null, truth values, texts and the given numbers. The members of a mapping
are named by texts, no two by the same one.
-/
inductive IsData (isNumber : Value → Prop) : Value → Prop where
  | null : IsData isNumber .null
  | bool (b : Bool) : IsData isNumber (.bool b)
  | number {value : Value} (h : isNumber value) : IsData isNumber value
  | text (s : String) : IsData isNumber (.text s)
  | list {items : List Value} (data : ∀ item ∈ items, IsData isNumber item) :
    IsData isNumber (.list items)
  | mapping {members : List (String × Value)} (names : (members.map (·.1)).Nodup)
    (data : ∀ member ∈ members, IsData isNumber member.2) :
    IsData isNumber (.mapping (members.map fun member => (.text member.1, member.2)))

theorem IsData.noMembers {isNumber : Value → Prop} : IsData isNumber (.mapping []) :=
  @IsData.mapping isNumber [] List.nodup_nil (by simp)

/-- A whole number of any size. -/
def IsWhole : Value → Prop
  | .int _ => True
  | _ => False

/-- A number as it can be read: a whole number that is not too long, or any double. -/
def IsReadNumber : Value → Prop
  | .int n => Decimal.isPrintable n
  | .float _ => True
  | _ => False

theorem isData_of_isExact {value : Value} (h : IsExact value) : IsData IsReadNumber value := by
  induction h with
  | null => exact .null
  | bool b => exact .bool b
  | int printable => exact .number printable
  | text s => exact .text s
  | list _ ih => exact .list ih
  | mapping names _ ih => exact .mapping names ih

/-! ### Writing -/

theorem writeItems_eq_mapM (items : List Value) : writeItems items = items.mapM write := by
  induction items with
  | nil => rfl
  | cons item items ih => rw [writeItems, List.mapM_cons, ih]

theorem writePairs_eq_mapM (members : List (String × Value)) :
    writePairs (members.map fun member => (.text member.1, member.2))
      = members.mapM fun member => do return quote member.1 ++ ": " ++ (← write member.2) := by
  induction members with
  | nil => rfl
  | cons member members ih =>
    rw [List.map_cons, writePairs, List.mapM_cons, ih, memberName, bind_assoc]
    rfl

theorem exists_number_of_write_eq_error {isNumber : Value → Prop} {value : Value} {e : Unwritable}
    (h : IsData isNumber value) (failed : write value = .error e) :
    ∃ number, isNumber number ∧ write number = .error e := by
  induction h with
  | null => cases failed
  | bool b => cases b <;> cases failed
  | number h => exact ⟨_, h, failed⟩
  | text => cases failed
  | list _ ih =>
    rw [write, writeItems_eq_mapM] at failed
    obtain ⟨item, hi, failed⟩ := exists_of_mapM_eq_error (eq_error_of_bind_pure failed)
    exact ih item hi failed
  | mapping _ _ ih =>
    rw [write, writePairs_eq_mapM] at failed
    obtain ⟨member, hm, failed⟩ := exists_of_mapM_eq_error (eq_error_of_bind_pure failed)
    exact ih member hm (eq_error_of_bind_pure failed)

theorem exists_write_of_isReadNumber {value : Value} (h : IsReadNumber value) :
    ∃ text, write value = .ok text := by
  cases value with
  | int n =>
    have printable : Decimal.isPrintable n := h
    exact ⟨toString n, by rw [write, writeWhole, if_pos printable]⟩
  | float x => exact ⟨_, rfl⟩
  | _ => cases h

theorem exists_write_of_isData {value : Value} (h : IsData IsReadNumber value) :
    ∃ text, write value = .ok text := by
  cases written : write value with
  | ok text => exact ⟨text, rfl⟩
  | error e =>
    obtain ⟨number, readable, failed⟩ := exists_number_of_write_eq_error h written
    obtain ⟨text, done⟩ := exists_write_of_isReadNumber readable
    rw [done] at failed
    cases failed

theorem eq_tooLong_of_write_eq_error {value : Value} {e : Unwritable} (h : IsData IsWhole value)
    (failed : write value = .error e) : e = .tooLong := by
  obtain ⟨number, whole, failed⟩ := exists_number_of_write_eq_error h failed
  cases number with
  | int n =>
    rw [write, writeWhole] at failed
    split at failed
    · cases failed
    · cases failed
      rfl
  | _ => cases whole

/-- What has a text is told by it in full: none of its whole numbers is too long. -/
theorem isExact_of_write_eq_ok {value : Value} {text : String} (h : IsData IsWhole value)
    (written : write value = .ok text) : IsExact value := by
  induction h generalizing text with
  | null => exact .null
  | bool b => exact .bool b
  | @number value whole =>
    cases value with
    | int n =>
      rw [write, writeWhole] at written
      split at written
      · next printable => exact .int printable
      · cases written
    | _ => cases whole
  | text s => exact .text s
  | list _ ih =>
    rw [write, writeItems_eq_mapM] at written
    obtain ⟨texts, parts, -⟩ := bind_eq_ok.mp written
    apply IsExact.list
    intro item hi
    obtain ⟨part, -, done⟩ := exists_of_mem_left (forall₂_of_mapM_eq_ok parts) hi
    exact ih item hi done
  | mapping names _ ih =>
    rw [write, writePairs_eq_mapM] at written
    obtain ⟨texts, parts, -⟩ := bind_eq_ok.mp written
    apply IsExact.mapping names
    intro member hm
    obtain ⟨_, -, done⟩ := exists_of_mem_left (forall₂_of_mapM_eq_ok parts) hm
    obtain ⟨part, done, -⟩ := bind_eq_ok.mp done
    exact ih member hm done

/-! ### Reading -/

theorem isDigit_of_readWhole {cs whole rest : List Char} (h : readWhole cs = some (whole, rest)) :
    ∀ c ∈ whole, c.isDigit := by
  unfold readWhole at h
  split at h
  · cases h
    simp
  · next c tail _ =>
    split at h
    · next first =>
      cases h
      exact List.forall_mem_cons.mpr ⟨first, fun d hd => List.mem_takeWhile_imp hd⟩
    · cases h
  · cases h

theorem isReadNumber_of_readNumber {cs rest : List Char} {value : Value}
    (h : readNumber cs = .ok (value, rest)) : IsReadNumber value := by
  unfold readNumber at h
  split at h
  next negative unsigned _ =>
  split at h
  · cases h
  · next whole tail read =>
    simp only at h
    split at h
    · split at h
      · cases h
      · next short =>
        cases h
        exact Decimal.isPrintable_ofDigits (isDigit_of_readWhole read) (Nat.not_lt.mp short)
          negative
    · cases h
      trivial

theorem isData_of_readAtom {cs rest : List Char} {value : Value}
    (h : readAtom cs = .ok (value, rest)) : IsData IsReadNumber value := by
  unfold readAtom at h
  split at h
  · cases h
    exact .null
  · cases h
    exact .bool true
  · cases h
    exact .bool false
  · cases h
    exact .number trivial
  · cases h
    exact .number trivial
  · cases h
    exact .number trivial
  · exact .number (isReadNumber_of_readNumber h)

theorem isData_ofMembers {isNumber : Value → Prop} {members : List (String × Value)}
    (h : ∀ member ∈ members, IsData isNumber member.2) : IsData isNumber (ofMembers members) := by
  have kept : Ordered.ofList members = Ordered.putAll (·.1) (·.2) members [] := by
    rw [← Ordered.ofList_map_eq_putAll, List.map_id']
  unfold ofMembers
  rw [kept]
  apply IsData.mapping (Ordered.nodup_putAll _ _ members)
  intro member hm
  obtain ⟨given, hg, rfl⟩ := Ordered.mem_putAll hm
  exact h given hg

/-- What is read with some fuel: a value, the items of a list, or the members of a mapping. -/
structure ReadsData (fuel : Nat) : Prop where
  value {cs rest : List Char} {value : Value} (h : readValue fuel cs = .ok (value, rest)) :
    IsData IsReadNumber value
  items {cs rest : List Char} {items : List Value} (h : readItems fuel cs = .ok (items, rest)) :
    ∀ item ∈ items, IsData IsReadNumber item
  members {cs rest : List Char} {members : List (String × Value)}
    (h : readMembers fuel cs = .ok (members, rest)) :
    ∀ member ∈ members, IsData IsReadNumber member.2

theorem readsData (fuel : Nat) : ReadsData fuel := by
  induction fuel with
  | zero =>
    constructor
    · intro cs rest value h
      cases h
    · intro cs rest items h
      cases h
    · intro cs rest members h
      cases h
  | succ fuel ih =>
    constructor
    · intro cs rest value h
      unfold readValue at h
      split at h
      · cases h
      · obtain ⟨s, -, h⟩ := bind_eq_ok.mp h
        cases h
        exact .text _
      · next same =>
        cases same
        split at h
        · cases h
          exact .list (by simp)
        · obtain ⟨items, read, h⟩ := bind_eq_ok.mp h
          cases h
          exact .list (ih.items read)
      · next same =>
        cases same
        split at h
        · cases h
          exact .noMembers
        · obtain ⟨members, read, h⟩ := bind_eq_ok.mp h
          cases h
          exact isData_ofMembers (ih.members read)
      · exact isData_of_readAtom h
    · intro cs rest items h
      unfold readItems at h
      obtain ⟨⟨item, behind⟩, first, h⟩ := bind_eq_ok.mp h
      simp only at h
      split at h
      · cases h
        exact List.forall_mem_singleton.mpr (ih.value first)
      · obtain ⟨others, read, h⟩ := bind_eq_ok.mp h
        cases h
        exact List.forall_mem_cons.mpr ⟨ih.value first, ih.items read⟩
      · cases h
    · intro cs rest members h
      unfold readMembers at h
      split at h
      · cases h
      · next same =>
        cases same
        obtain ⟨⟨name, behind⟩, -, h⟩ := bind_eq_ok.mp h
        simp only at h
        split at h
        · obtain ⟨⟨value, behind⟩, first, h⟩ := bind_eq_ok.mp h
          simp only at h
          split at h
          · cases h
            exact List.forall_mem_singleton.mpr (ih.value first)
          · obtain ⟨others, read, h⟩ := bind_eq_ok.mp h
            cases h
            exact List.forall_mem_cons.mpr ⟨ih.value first, ih.members read⟩
          · cases h
        · cases h
      · cases h

/-- What a text is read as is data, over numbers that are not too long. -/
theorem isData_of_read {text : String} {value : Value} (h : read text = .ok value) :
    IsData IsReadNumber value := by
  unfold read at h
  obtain ⟨⟨found, rest⟩, first, h⟩ := bind_eq_ok.mp h
  simp only at h
  split at h
  · cases h
    exact (readsData _).value first
  · cases h

end Typescribe.Json
