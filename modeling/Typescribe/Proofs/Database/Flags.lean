import Typescribe.Proofs.Database.Fields
import Typescribe.Proofs.Schema.Validation
import Typescribe.Proofs.Snapshot.Contents
import Typescribe.Proofs.Text.Ascii

/-!
This module contains what snapshots and databases make of the same flags, which are a list in the
ones and a text with commas in the others: the same fields are aliases, and the same collections are
allowed as the targets of a relation.
-/

namespace Typescribe

namespace Snapshot

variable {raw info : Value}

theorem isTruthy_infoOf {name : String} {value : Value}
    (h : memberOf name (infoOf raw) = some value) : (infoOf raw).isTruthy := by
  unfold infoOf Value.orEmpty Value.orElse at h ⊢
  split at h
  · split at h
    · next truthy => rwa [if_pos truthy]
    · cases h
  · cases h

theorem of_relationMetaCheck {pairs : List (Value × Value)} {sides : RelationMeta}
    (h : RelationMeta.check (.mapping pairs) = .valid sides) {allowed : Value}
    (given : Value.lookup "one_allowed_collections" pairs = some allowed) :
    Checked.asList Checked.asText allowed = .valid sides.oneAllowedCollections := by
  simp only [RelationMeta.check, Checked.asModel, Checked.app_eq_valid] at h
  obtain ⟨_, _, ⟨_, _, ⟨_, _, ⟨_, _, ⟨_, _, first, -, rfl⟩, -, rfl⟩, -, rfl⟩, -, rfl⟩, last, rfl⟩ := h
  obtain ⟨_, -, rfl⟩ := Checked.map_eq_valid.mp first
  exact (Checked.withDefault_eq_valid given).mp last

theorem of_buildSides {sides : RelationMeta} (h : buildSides info = .ok sides) :
    specialFlags ((memberOf "one_allowed_collections" info).getD .null)
      = .ok sides.oneAllowedCollections := by
  unfold buildSides at h
  obtain ⟨manyCollection, -, h⟩ := bind_eq_ok.mp h
  obtain ⟨manyField, -, h⟩ := bind_eq_ok.mp h
  obtain ⟨oneCollection, -, h⟩ := bind_eq_ok.mp h
  obtain ⟨oneField, -, h⟩ := bind_eq_ok.mp h
  obtain ⟨junctionField, -, h⟩ := bind_eq_ok.mp h
  obtain ⟨listed, allowedMember, h⟩ := bind_eq_ok.mp h
  cases member?_eq_ok allowedMember
  obtain ⟨allowed, flagsRead, h⟩ := bind_eq_ok.mp h
  have read := of_relationMetaCheck (Checked.result_eq_ok.mp h) rfl
  have text (s : String) : Checked.asText (.text s) = .valid s := rfl
  rw [Option.getD_some, Checked.asList_map text] at read
  rw [flagsRead, Checked.valid.inj read]

theorem of_buildRelation {relation : Relation} (h : buildRelation raw = .ok relation) :
    sidesOf (infoOf raw) = .ok relation.sides := by
  unfold buildRelation at h
  obtain ⟨info, infoMember, h⟩ := bind_eq_ok.mp h
  obtain ⟨column, -, h⟩ := bind_eq_ok.mp h
  obtain ⟨sides, sidesRead, h⟩ := bind_eq_ok.mp h
  obtain ⟨collection, -, h⟩ := bind_eq_ok.mp h
  obtain ⟨field, -, h⟩ := bind_eq_ok.mp h
  obtain ⟨related, -, h⟩ := bind_eq_ok.mp h
  obtain ⟨foreignKey, -, h⟩ := bind_eq_ok.mp h
  obtain ⟨manyToMany, -, h⟩ := bind_eq_ok.mp h
  obtain ⟨oneToMany, -, h⟩ := bind_eq_ok.mp h
  obtain ⟨checked, -, h⟩ := bind_eq_ok.mp h
  cases h
  cases member?_eq_ok infoMember
  exact sidesRead

theorem allowedCollections_of_buildRelation {relation : Relation} {allowed : Value}
    {flags : List String} (given : memberOf "one_allowed_collections" (infoOf raw) = some allowed)
    (read : specialFlags allowed = .ok flags) (h : buildRelation raw = .ok relation) :
    relation.sides.map (·.oneAllowedCollections) = some flags := by
  have built := of_buildRelation h
  rw [sidesOf, if_pos (isTruthy_infoOf given)] at built
  obtain ⟨sides, built, same⟩ := map_eq_ok.mp built
  have allowedRead := of_buildSides built
  rw [given, Option.getD_some, read] at allowedRead
  rw [← same, Option.map_some, Except.ok.inj allowedRead]

end Snapshot

namespace Database

open Snapshot

variable {flags : List String} {text : String}

theorem FieldRow.flags_eq {row : FieldRow} (given : row.special = some text) :
    row.flags = splitFlags text := by
  rw [FieldRow.flags, given]

theorem RelationRow.allowedCollections_eq {row : RelationRow}
    (given : row.oneAllowedCollections = some text) :
    row.allowedCollections = splitFlags text := by
  rw [RelationRow.allowedCollections, given]

/--
A list of flags and a text that is put together from them are read to the same flags. So a field of
a snapshot is an alias by its flags exactly when its row in a database makes it one, and a relation
has the same allowed collections in both.
-/
theorem flags_of_isSpelling (plain : ∀ flag ∈ flags, IsFlag flag)
    (spelled : IsSpelling text flags) :
    specialFlags (.text text) = .ok flags
      ∧ specialFlags (.list (flags.map .text)) = .ok flags
      ∧ (∀ (raw : Value) (field : Field) (row : FieldRow),
          memberOf "special" (infoOf raw) = some (.list (flags.map .text)) →
          row.special = some text → buildField raw = .ok field →
          row.flags = flags
            ∧ (field.isAlias ↔ memberOf "type" raw = some (.text "alias") ∨ row.isAlias))
      ∧ ∀ (raw : Value) (relation : Relation) (row : RelationRow) (tables : List Table),
          memberOf "one_allowed_collections" (infoOf raw) = some (.list (flags.map .text)) →
          row.oneAllowedCollections = some text → buildRelation raw = .ok relation →
          relation.sides.map (·.oneAllowedCollections) = some flags
            ∧ (relationOf tables row).sides.map (·.oneAllowedCollections) = some flags := by
  have split : splitFlags text = flags := splitFlags_eq_iff.mpr ⟨plain, spelled⟩
  have listed := specialFlags_list flags
  refine ⟨by rw [specialFlags_text, split], listed, ?_, ?_⟩
  · intro raw field row given written built
    have rowFlags : row.flags = flags := by rw [FieldRow.flags_eq written, split]
    obtain ⟨-, -, -, read, flagsRead, isAlias⟩ := of_buildField built
    rw [given, Option.getD_some, listed] at flagsRead
    cases flagsRead
    exact ⟨rowFlags, by rw [isAlias, isAlias_iff, rowFlags]⟩
  · intro raw relation row tables given written built
    refine ⟨allowedCollections_of_buildRelation given listed built, ?_⟩
    rw [relationOf, Option.map_some, RelationRow.allowedCollections_eq written, split]

/-- Flags with white space around them and blank parts between them and behind. -/
def paddedFlags : String := "\u3000files ,, translations\u2003,"

def filesField : Value :=
  .mapping [(.text "collection", .text "posts"), (.text "field", .text "images"),
    (.text "meta", .mapping [(.text "special", .list [.text "files", .text "translations"])])]

def filesRow : FieldRow where
  id := 1
  collection := "posts"
  field := "images"
  special := some paddedFlags

def itemRelation : Value :=
  .mapping [(.text "collection", .text "blocks"), (.text "field", .text "item"),
    (.text "meta", .mapping [
      (.text "one_allowed_collections", .list [.text "files", .text "translations"])])]

def itemRow : RelationRow where
  id := 1
  manyCollection := "blocks"
  manyField := "item"
  oneAllowedCollections := some paddedFlags

theorem flags_of_paddedFlags :
    specialFlags (.text paddedFlags) = .ok ["files", "translations"]
      ∧ (∃ field, buildField filesField = .ok field ∧ (field.isAlias ↔ filesRow.isAlias)
        ∧ filesRow.flags = ["files", "translations"])
      ∧ ∃ relation, buildRelation itemRelation = .ok relation
        ∧ relation.sides.map (·.oneAllowedCollections) = some ["files", "translations"]
        ∧ (relationOf [] itemRow).sides.map (·.oneAllowedCollections)
          = some ["files", "translations"] := by
  have plain : ∀ flag ∈ ["files", "translations"], IsFlag flag := by
    have files : IsFlag "files" :=
      ⟨.of_forall (by decide) (Text.forall_mem_of_all rfl), by decide⟩
    have translations : IsFlag "translations" :=
      ⟨.of_forall (by decide) (Text.forall_mem_of_all rfl), by decide⟩
    exact List.forall_mem_cons.mpr ⟨files, List.forall_mem_singleton.mpr translations⟩
  have spelled : IsSpelling paddedFlags ["files", "translations"] :=
    ⟨[['\u3000'] ++ "files".toList ++ [' '], [], [' '] ++ "translations".toList ++ ['\u2003'], []],
      by decide,
      .flag (by decide) (by decide) <| .blank (by decide) <| .flag (by decide) (by decide) <|
        .blank (by decide) .nil⟩
  obtain ⟨text, -, fields, relations⟩ := flags_of_isSpelling plain spelled
  refine ⟨text, ⟨_, rfl, ?_⟩, _, rfl, relations itemRelation _ itemRow [] rfl rfl rfl⟩
  obtain ⟨rowFlags, isAlias⟩ := fields filesField _ filesRow rfl rfl rfl
  refine ⟨isAlias.trans ?_, rowFlags⟩
  have untyped : memberOf "type" filesField ≠ some (.text "alias") := nofun
  exact or_iff_right untyped

end Database

end Typescribe
