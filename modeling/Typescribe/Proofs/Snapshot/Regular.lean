import Typescribe.Proofs.Snapshot.Document

/-!
This module contains the documents that can be probed without a fault of their own making: what is
looked into has members, and what is shown can be shown. From other documents two kinds of causes
come that no reading of a document counts as malformed.
-/

namespace Typescribe.Snapshot

variable {σ : Type}

def HasMembers (value : Value) : Prop :=
  ∃ pairs, value.opened = .mapping pairs

/-- Flags that are no text are shown one by one. -/
def AreFlagsShowable (special : Value) : Prop :=
  ∀ flags, special.elements = .ok flags → ∀ flag ∈ flags, flag.isShowable

/-- Options are no text, or a text that is JSON or is malformed as such. -/
def AreOptionsReadable (options : Value) : Prop :=
  ∀ s, options = .text s → ∀ cause, readJson s = .error cause → cause = .malformedJson

def AreChoicesShowable (options : Value) : Prop :=
  ∀ pairs, optionsOf options = .ok pairs →
    ∀ choice ∈ rawChoices pairs, HasMembers choice ∨ choice.isShowable

structure IsRegularField (raw : Value) : Prop where
  hasMembers : HasMembers raw
  info_hasMembers : HasMembers (infoOf raw)
  column_hasMembers : HasMembers (columnOf raw)
  flags : AreFlagsShowable ((memberOf "special" (infoOf raw)).getD .null)
  options : AreOptionsReadable ((memberOf "options" (infoOf raw)).getD .null)
  choices : AreChoicesShowable ((memberOf "options" (infoOf raw)).getD .null)

def IsRegularCollection (raw : Value) : Prop :=
  isFolder raw ∨ HasMembers (infoOf raw)

structure IsRegularRelation (raw : Value) : Prop where
  hasMembers : HasMembers raw
  info_hasMembers : HasMembers (infoOf raw)
  column_hasMembers : HasMembers (columnOf raw)
  flags : AreFlagsShowable ((memberOf "one_allowed_collections" (infoOf raw)).getD .null)

structure IsRegular (document : Value) : Prop where
  fields : ∀ raws, rawEntries "fields" document = .ok raws → ∀ raw ∈ raws, IsRegularField raw
  collections : ∀ raws, rawEntries "collections" document = .ok raws →
    ∀ raw ∈ raws, IsRegularCollection raw
  relations : ∀ raws, rawEntries "relations" document = .ok raws →
    ∀ raw ∈ raws, IsRegularRelation raw

/--
The causes that come from probing: those of a malformed document, and two others if it is not
regular.
-/
inductive Mishap (regular : Prop) : Cause → Prop where
  | missingKey (key : Value) : Mishap regular (.missingKey key)
  | wrongKind : Mishap regular .wrongKind
  | invalid (model : String) (issues : List Issue) : Mishap regular (.invalid model issues)
  | noMembers (irregular : ¬regular) : Mishap regular .noMembers
  | badValue (text : String) (irregular : ¬regular) : Mishap regular (.badValue text)

def FailsByMishap {α : Type} (regular : Prop) (x : Except Cause α) : Prop :=
  ∀ cause, x = .error cause → Mishap regular cause

namespace FailsByMishap

variable {α β : Type} {regular : Prop} {x : Except Cause α}

theorem ok (a : α) : FailsByMishap regular (.ok a : Except Cause α) := by
  intro cause h
  cases h

theorem error {cause : Cause} (h : Mishap regular cause) :
    FailsByMishap regular (.error cause : Except Cause α) := by
  intro other same
  cases same
  exact h

theorem mono {other : Prop} (h : FailsByMishap other x) (weaker : regular → other) :
    FailsByMishap regular x := by
  intro cause failed
  cases h cause failed with
  | missingKey key => exact .missingKey key
  | wrongKind => exact .wrongKind
  | invalid model issues => exact .invalid model issues
  | noMembers irregular => exact .noMembers fun h => irregular (weaker h)
  | badValue text irregular => exact .badValue text fun h => irregular (weaker h)

theorem bind {f : α → Except Cause β} (first : FailsByMishap regular x)
    (second : ∀ a, x = .ok a → FailsByMishap regular (f a)) : FailsByMishap regular (x >>= f) := by
  cases x with
  | error cause =>
    intro other same
    cases same
    exact first cause rfl
  | ok a => exact second a rfl

theorem map {f : α → β} (h : FailsByMishap regular x) : FailsByMishap regular (x.map f) :=
  h.bind fun a _ => ok (f a)

theorem mapM {f : α → Except Cause β} {as : List α}
    (h : ∀ a ∈ as, FailsByMishap regular (f a)) : FailsByMishap regular (as.mapM f) := by
  induction as with
  | nil => exact ok []
  | cons a as ih =>
    rw [List.mapM_cons]
    apply (h a List.mem_cons_self).bind
    intro b _
    apply (ih fun other hother => h other (List.mem_cons_of_mem _ hother)).bind
    intro bs _
    exact ok (b :: bs)

theorem member? (name : String) (value : Value) :
    FailsByMishap (HasMembers value) (value.member? name) := by
  unfold Value.member?
  split
  · exact ok _
  · next other => exact error (.noMembers fun ⟨pairs, opened⟩ => other pairs opened)

theorem item (name : String) (value : Value) : FailsByMishap regular (value.item name) := by
  unfold Value.item
  split
  · split
    · exact ok _
    · exact error (.missingKey _)
  · exact error .wrongKind

theorem elements (value : Value) : FailsByMishap regular value.elements := by
  unfold Value.elements
  split <;> first | exact ok _ | exact error .wrongKind

theorem label (value : Value) : FailsByMishap (value.isShowable = true) value.label := by
  unfold Value.label
  split
  · exact ok _
  · next unshowable => exact error (.badValue _ unshowable)

theorem result (checked : Checked α) (model : String) :
    FailsByMishap regular (checked.result model) := by
  intro cause failed
  obtain ⟨issues, rfl⟩ := Checked.result_eq_error failed
  exact .invalid model issues

end FailsByMishap

open FailsByMishap

theorem failsByMishap_specialFlags (special : Value) :
    FailsByMishap (AreFlagsShowable special) (specialFlags special) := by
  unfold specialFlags
  split
  · exact ok _
  · split
    · exact ok _
    · apply (elements _).bind
      intro flags read
      apply mapM
      intro flag hflag
      exact (label flag).mono fun showable => showable flags read flag hflag

theorem failsByMishap_optionsOf (options : Value) :
    FailsByMishap (AreOptionsReadable options) (optionsOf options) := by
  unfold optionsOf
  split
  · exact ok _
  · split
    · next s _ =>
      split
      · exact ok _
      · exact ok _
      · next cause malformed read =>
        -- What is left is a text that is JSON but for a number with too many digits.
        have wellFormed : ¬AreOptionsReadable (.text s) := by
          intro readable
          exact malformed (readable s rfl cause read)
        unfold readJson at read
        split at read
        · cases read
        · cases read
          exact absurd rfl malformed
        · cases read
          exact error (.badValue _ wellFormed)
    · exact ok _

theorem failsByMishap_choice? (value : Value) :
    FailsByMishap (HasMembers value ∨ value.isShowable) (choice? value) := by
  unfold choice?
  split
  · split
    · exact ok _
    · exact (result _ _).map
  · next other =>
    apply ((label value).mono _).map
    rintro (⟨pairs, opened⟩ | showable)
    · exact absurd opened (other pairs)
    · exact showable

theorem failsByMishap_choices (items : List Value) :
    FailsByMishap (∀ item ∈ items, HasMembers item ∨ item.isShowable) (choices items) := by
  induction items with
  | nil => exact ok []
  | cons item items ih =>
    unfold choices
    apply ((failsByMishap_choice? item).mono fun h => h item List.mem_cons_self).bind
    intro first _
    apply (ih.mono fun h other hother => h other (List.mem_cons_of_mem _ hother)).bind
    intro others _
    exact ok _

theorem failsByMishap_definitionOf (collection field interface options : Value) :
    FailsByMishap (AreOptionsReadable options ∧ AreChoicesShowable options)
      (definitionOf collection field interface options) := by
  unfold definitionOf
  apply ((failsByMishap_optionsOf options).mono (·.1)).bind
  intro pairs read
  apply ((failsByMishap_choices (rawChoices pairs)).mono (·.2 pairs read)).bind
  intro choices _
  unfold checkDefinition
  apply (result _ _).bind
  intro definition _
  exact ok _

theorem failsByMishap_buildField (raw : Value) :
    FailsByMishap (IsRegularField raw) (buildField raw) := by
  unfold buildField
  apply ((member? "meta" raw).mono (·.hasMembers)).bind
  intro info hinfo
  apply ((member? "schema" raw).mono (·.hasMembers)).bind
  intro column hcolumn
  cases member?_eq_ok hinfo
  cases member?_eq_ok hcolumn
  apply ((member? "special" (infoOf raw)).mono (·.info_hasMembers)).bind
  intro special hspecial
  cases member?_eq_ok hspecial
  apply ((failsByMishap_specialFlags _).mono (·.flags)).bind
  intro flags _
  apply ((member? "type" raw).mono (·.hasMembers)).bind
  intro tag _
  -- Only a field that is no alias asks its column.
  apply FailsByMishap.bind
  · unfold isNullable columnNullable
    split
    · exact ok true
    · apply ((member? "is_nullable" (columnOf raw)).mono (·.column_hasMembers)).bind
      intro nullable _
      exact ok _
  intro nullable _
  apply (item "collection" raw).bind
  intro collection _
  apply (item "field" raw).bind
  intro field _
  apply ((member? "note" (infoOf raw)).mono (·.info_hasMembers)).bind
  intro note _
  apply ((member? "data_type" (columnOf raw)).mono (·.column_hasMembers)).bind
  intro columnType _
  exact result _ _

theorem failsByMishap_fieldEntry (raw : Value) :
    FailsByMishap (IsRegularField raw) (fieldEntry raw) := by
  unfold fieldEntry
  apply (failsByMishap_buildField raw).bind
  intro field _
  apply ((member? "meta" raw).mono (·.hasMembers)).bind
  intro info hinfo
  cases member?_eq_ok hinfo
  apply ((member? "interface" (infoOf raw)).mono (·.info_hasMembers)).bind
  intro interface _
  apply ((member? "options" (infoOf raw)).mono (·.info_hasMembers)).bind
  intro options hoptions
  cases member?_eq_ok hoptions
  apply ((failsByMishap_definitionOf _ _ _ _).mono fun h => ⟨h.options, h.choices⟩).bind
  intro definition _
  exact ok _

theorem failsByMishap_collectionEntry (table : FieldTable) (raw : Value) :
    FailsByMishap (IsRegularCollection raw) (collectionEntry table raw) := by
  unfold collectionEntry
  apply (item "collection" raw).bind
  intro name hname
  split
  · exact ok none
  · next notFolder =>
    -- What has an item has members, so that its info can be asked for.
    have hasMembers : HasMembers raw := by
      unfold Value.item at hname
      split at hname
      · next pairs opened => exact ⟨pairs, opened⟩
      · cases hname
    apply ((member? "meta" raw).mono fun _ => hasMembers).bind
    intro info hinfo
    cases member?_eq_ok hinfo
    apply ((member? "singleton" (infoOf raw)).mono fun h => h.resolve_left notFolder).bind
    intro singleton _
    split
    · exact error .wrongKind
    · apply (result _ _).bind
      intro id _
      exact ok _

theorem failsByMishap_buildSides (info : Value) :
    FailsByMishap (HasMembers info
        ∧ AreFlagsShowable ((memberOf "one_allowed_collections" info).getD .null))
      (buildSides info) := by
  unfold buildSides
  apply ((member? "many_collection" info).mono (·.1)).bind
  intro manyCollection _
  apply ((member? "many_field" info).mono (·.1)).bind
  intro manyField _
  apply ((member? "one_collection" info).mono (·.1)).bind
  intro oneCollection _
  apply ((member? "one_field" info).mono (·.1)).bind
  intro oneField _
  apply ((member? "junction_field" info).mono (·.1)).bind
  intro junctionField _
  apply ((member? "one_allowed_collections" info).mono (·.1)).bind
  intro allowed hallowed
  cases member?_eq_ok hallowed
  apply ((failsByMishap_specialFlags _).mono (·.2)).bind
  intro flags _
  exact result _ _

theorem failsByMishap_memberOfEither (name : String) (raw info : Value) :
    FailsByMishap (HasMembers raw ∧ HasMembers info) (memberOfEither name raw info) := by
  unfold memberOfEither
  apply ((member? name raw).mono (·.1)).bind
  intro found _
  split
  · split
    · exact ok _
    · exact (member? name info).mono (·.2)
  · exact (member? name info).mono (·.2)

theorem failsByMishap_buildRelation (raw : Value) :
    FailsByMishap (IsRegularRelation raw) (buildRelation raw) := by
  unfold buildRelation
  apply ((member? "meta" raw).mono (·.hasMembers)).bind
  intro info hinfo
  apply ((member? "schema" raw).mono (·.hasMembers)).bind
  intro column hcolumn
  cases member?_eq_ok hinfo
  cases member?_eq_ok hcolumn
  apply FailsByMishap.bind
  · unfold sidesOf
    split
    · apply FailsByMishap.map
      exact (failsByMishap_buildSides (infoOf raw)).mono fun h => ⟨h.info_hasMembers, h.flags⟩
    · exact ok none
  intro sides _
  apply (item "collection" raw).bind
  intro collection _
  apply (item "field" raw).bind
  intro field _
  apply ((member? "related_collection" raw).mono (·.hasMembers)).bind
  intro related _
  apply ((member? "foreign_key_column" (columnOf raw)).mono (·.column_hasMembers)).bind
  intro foreignKey _
  have either (name : String) := (failsByMishap_memberOfEither name raw (infoOf raw)).mono
    fun h : IsRegularRelation raw => ⟨h.hasMembers, h.info_hasMembers⟩
  apply (either "m2m_field").bind
  intro manyToMany _
  apply (either "o2m_field").bind
  intro oneToMany _
  apply (result _ _).bind
  intro relation _
  exact ok _

theorem failsByMishap_rawEntries (name : String) (document : Value) :
    FailsByMishap (HasMembers document) (rawEntries name document) := by
  unfold rawEntries
  apply (member? name document).bind
  intro list _
  exact elements _

theorem failsByMishap_contentsOf (document : Value) :
    FailsByMishap (HasMembers document ∧ IsRegular document) (contentsOf document) := by
  unfold contentsOf
  apply ((failsByMishap_rawEntries "fields" document).mono (·.1)).bind
  intro rawFields hFields
  apply FailsByMishap.bind
  · apply mapM
    intro raw hraw
    exact (failsByMishap_fieldEntry raw).mono fun h => h.2.fields rawFields hFields raw hraw
  intro fields _
  apply ((failsByMishap_rawEntries "collections" document).mono (·.1)).bind
  intro rawCollections hCollections
  apply FailsByMishap.bind
  · apply mapM
    intro raw hraw
    exact (failsByMishap_collectionEntry _ raw).mono fun h =>
      h.2.collections rawCollections hCollections raw hraw
  intro entries _
  apply ((failsByMishap_rawEntries "relations" document).mono (·.1)).bind
  intro rawRelations hRelations
  apply FailsByMishap.bind
  · apply mapM
    intro raw hraw
    exact (failsByMishap_buildRelation raw).mono fun h =>
      h.2.relations rawRelations hRelations raw hraw
  intro relations _
  exact ok _

end Typescribe.Snapshot
