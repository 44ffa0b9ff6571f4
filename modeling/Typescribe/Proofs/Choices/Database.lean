import Typescribe.Choices.Database
import Typescribe.Proofs.Choices.Cache
import Typescribe.Proofs.Snapshot.Options

/-!
This module contains the choices that a database offers for a field, looked up one field at a time
and prefetched for all of them: the first row of the field decides in the one case, the last of its
rows with choices in the other.
-/

namespace Typescribe

open Declaration (enumType?)

variable {σ : Type}

namespace Database

variable {db : Database} {collection field : String}

def FieldRow.described (row : FieldRow) : Except Cause FieldDefinition := do
  let options ← row.optionsValue
  Snapshot.definitionOf (.text row.collection) (.text row.field)
    ((row.interface.map Value.text).getD .null) options

theorem isPlain_definition (row : FieldRow) :
    Step.IsPlain (row.definition : Step σ _) (row.described.mapError .foreign) := by
  unfold FieldRow.definition FieldRow.described
  rw [mapError_bind]
  apply (Snapshot.isPlain_orFail row.optionsValue).bind
  intro options _
  exact Snapshot.isPlain_buildDefinition _ _ _ options

def FieldRow.isOf (collection field : String) (row : FieldRow) : Bool :=
  row.collection = collection && row.field = field

/-- All rows of a field, by their numbers. -/
def rowsOfField (db : Database) (collection field : String) : List FieldRow :=
  match db.fieldRowsById with
  | .ok rows => rows.filter (FieldRow.isOf collection field)
  | .error _ => []

def firstDefinition (db : Database) (collection field : String) : Option FieldDefinition :=
  (db.rowsOfField collection field).head?.bind fun row => row.described.toOption

def FieldRow.offer (row : FieldRow) : Option FieldDefinition :=
  row.described.toOption.filter (!·.choices.isEmpty)

/-- The last definition with choices among the rows of a field. -/
def lastOffer (db : Database) (collection field : String) : Option FieldDefinition :=
  ((db.rowsOfField collection field).filterMap FieldRow.offer).getLast?

theorem namePrecedes_trans (a b c : FieldRow) (first : a.namePrecedes b) (second : b.namePrecedes c) :
    a.namePrecedes c := by
  unfold FieldRow.namePrecedes at *
  grind

theorem namePrecedes_total (a b : FieldRow) : a.namePrecedes b || b.namePrecedes a := by
  unfold FieldRow.namePrecedes
  grind

theorem isOf_iff {row : FieldRow} :
    row.isOf collection field ↔ row.collection = collection ∧ row.field = field := by
  simp [FieldRow.isOf]

theorem filter_isOf_mergeSort (rows : List FieldRow) :
    (rows.mergeSort FieldRow.namePrecedes).filter (FieldRow.isOf collection field)
      = rows.filter (FieldRow.isOf collection field) := by
  -- The rows of one field are equal by name, so that a stable sort by name keeps their order.
  have sorted : (rows.filter (FieldRow.isOf collection field)).Pairwise
      (FieldRow.namePrecedes · ·) := by
    apply List.pairwise_of_forall_mem_list
    intro a ha b hb
    obtain ⟨aCollection, aField⟩ := isOf_iff.mp (List.mem_filter.mp ha).2
    obtain ⟨bCollection, bField⟩ := isOf_iff.mp (List.mem_filter.mp hb).2
    simp [FieldRow.namePrecedes, aCollection, aField, bCollection, bField]
  have kept := (List.sublist_mergeSort namePrecedes_trans namePrecedes_total sorted
    List.filter_sublist).filter (FieldRow.isOf collection field)
  simp only [List.filter_filter, Bool.and_self] at kept
  have same := ((List.mergeSort_perm rows FieldRow.namePrecedes).filter
    (FieldRow.isOf collection field)).length_eq
  exact (kept.eq_of_length same.symm).symm

theorem of_described {row : FieldRow} {d : FieldDefinition} (h : row.described = .ok d) :
    d.collection = row.collection ∧ d.field = row.field := by
  obtain ⟨options, -, h⟩ := bind_eq_ok.mp h
  obtain ⟨collection, field⟩ := Snapshot.of_definitionOf h
  exact ⟨(Checked.valid.inj collection).symm, (Checked.valid.inj field).symm⟩

theorem choices_described_of_options_eq_none {row : FieldRow} {d : FieldDefinition}
    (absent : row.options = none) (h : row.described = .ok d) : d.choices = [] := by
  obtain ⟨options, read, h⟩ := bind_eq_ok.mp h
  rw [FieldRow.optionsValue, absent] at read
  cases read
  exact Snapshot.choices_definitionOf_null h

theorem filter_offer (row : FieldRow) :
    row.offer.filter (fun d => (d.collection, d.field) = (collection, field))
      = if row.isOf collection field then row.offer else none := by
  unfold FieldRow.offer
  rcases described : row.described with cause | d
  · simp [Except.toOption]
  · have same : decide ((d.collection, d.field) = (collection, field))
        = row.isOf collection field := by
      obtain ⟨sameCollection, sameField⟩ := of_described described
      rw [Bool.eq_iff_iff, decide_eq_true_iff, isOf_iff, Prod.mk.injEq, sameCollection, sameField]
    simp only [Except.toOption, Option.filter_some]
    split
    · rw [Option.filter_some, same]
    · simp

theorem offer_of_options_eq_none {row : FieldRow} (absent : row.options = none) :
    row.offer = none := by
  unfold FieldRow.offer
  rcases described : row.described with cause | d
  · rfl
  · simp [Except.toOption, choices_described_of_options_eq_none absent described]

theorem filterMap_offer_optionRows {rows : List FieldRow} (h : db.optionRows = .ok rows) :
    (rows.filterMap FieldRow.offer).filter
        (fun d => (d.collection, d.field) = (collection, field))
      = (db.rowsOfField collection field).filterMap FieldRow.offer := by
  obtain ⟨all, read, h⟩ := bind_eq_ok.mp h
  obtain ⟨_, -, h⟩ := bind_eq_ok.mp h
  cases h
  -- Neither the order of the query nor the rows it leaves out matter to the offers of one field.
  calc _
      = ((all.filter (·.options.isSome)).mergeSort FieldRow.namePrecedes |>.filter
          (FieldRow.isOf collection field)).filterMap FieldRow.offer := by
        rw [List.filter_filterMap, List.filterMap_filter]
        exact congrArg (List.filterMap · _) (funext filter_offer)
    _ = ((all.filter (FieldRow.isOf collection field)).filter (·.options.isSome)).filterMap
          FieldRow.offer := by
        rw [filter_isOf_mergeSort, List.filter_filter, List.filter_filter]
        simp only [Bool.and_comm]
    _ = (db.rowsOfField collection field).filterMap FieldRow.offer := by
        rw [rowsOfField, read, List.filterMap_filter]
        apply congrArg (List.filterMap · _)
        funext row
        split
        · rfl
        · next absent => exact (offer_of_options_eq_none (by simpa using absent)).symm

end Database

namespace ChoiceSource

open Database

variable {db : Database} {collection field : String}

/-- What a lookup in a database finds. -/
def found (db : Database) (collection field : String) : Except Fault (Option FieldDefinition) := do
  let row ← (db.lookupRow collection field).mapError (queryFault (.tableLookup collection field))
  match row with
  | none => return none
  | some row => return some (← row.described.mapError .foreign)

/-- The definitions with choices of all fields of a database. -/
def listed (db : Database) : Except Fault (List FieldDefinition) := do
  let rows ← db.optionRows.mapError (queryFault .tablePrefetch)
  let definitions ← rows.mapM fun row => row.described.mapError .foreign
  return definitions.filter (!·.choices.isEmpty)

theorem isPlain_lookup (db : Database) (collection field : String) :
    Step.IsPlain ((ofDatabase db : ChoiceSource σ).lookup collection field)
      (found db collection field) := by
  apply (Step.IsPlain.ofExcept _).bind
  intro row _
  cases row with
  | none => exact .pure none
  | some row => exact (isPlain_definition row).bind fun d _ => .pure (some d)

theorem isPlain_all (db : Database) :
    Step.IsPlain (ofDatabase db : ChoiceSource σ).all (listed db) := by
  apply (Step.IsPlain.ofExcept _).bind
  intro rows _
  exact (Step.IsPlain.mapM isPlain_definition rows).bind fun definitions _ => .pure _

theorem safeAnswer_found (db : Database) (collection field : String) :
    safeAnswer (found db collection field) = db.firstDefinition collection field := by
  unfold found lookupRow firstDefinition rowsOfField
  cases db.fieldRowsById with
  | error cause => rfl
  | ok rows =>
    simp only
    rw [List.head?_filter]
    change safeAnswer (match rows.find? (FieldRow.isOf collection field) with
      | none => .ok none
      | some row => row.described.mapError .foreign >>= fun d => .ok (some d)) = _
    cases rows.find? (FieldRow.isOf collection field) with
    | none => rfl
    | some row =>
      simp only [Option.bind_some]
      cases row.described with
      | error cause => rfl
      | ok d => rfl

theorem find?_reverse_listed {definitions : List FieldDefinition} (h : listed db = .ok definitions) :
    definitions.reverse.find? (fun d => (d.collection, d.field) = (collection, field))
      = db.lastOffer collection field := by
  obtain ⟨rows, read, h⟩ := bind_eq_ok.mp h
  obtain ⟨all, described, h⟩ := bind_eq_ok.mp h
  cases h
  have offers : all.filter (!·.choices.isEmpty) = rows.filterMap FieldRow.offer := by
    rw [eq_filterMap_of_mapM_eq_ok described, List.filter_filterMap]
    apply congrArg (List.filterMap · rows)
    funext row
    unfold FieldRow.offer
    cases row.described <;> rfl
  have readable : db.optionRows = .ok rows := by
    cases found : db.optionRows with
    | error cause => rw [found] at read; cases read
    | ok other => rw [found] at read; cases read; rfl
  rw [find?_reverse_eq_getLast?_filter, lastOffer, offers, filterMap_offer_optionRows readable]

theorem enumType?_offer (row : FieldRow) :
    enumType? row.offer = enumType? row.described.toOption := by
  unfold FieldRow.offer
  rcases row.described with cause | d
  · rfl
  · simp only [Except.toOption, Option.filter_some]
    split
    · rfl
    · next empty =>
      have none : d.choices = [] := by simpa using empty
      exact (enumType?_eq_none fun _ same => by cases same; exact none).symm

theorem enumType?_lastOffer_of_length_le_one
    (single : (db.rowsOfField collection field).length ≤ 1) :
    enumType? (db.lastOffer collection field)
      = enumType? (db.firstDefinition collection field) := by
  unfold lastOffer firstDefinition
  match db.rowsOfField collection field, single with
  | [], _ => rfl
  | [row], _ =>
    have last : ([row].filterMap FieldRow.offer).getLast? = row.offer := by
      rw [List.filterMap_cons]
      cases row.offer <;> rfl
    rw [last]
    exact enumType?_offer row

theorem sameOffer_of_listed_eq_error {fault : Fault} (read : listed db = .error fault) (inner : σ)
    (log : List Log.Record) (s : Session σ) :
    let source : ChoiceSource σ := ofDatabase db
    ∃ t, Step.Yields source.prefetch ⟨{ inner }, log⟩ false t
      ∧ source.cached.SameOffer t source s collection field := by
  intro source
  have direct (u : Session σ) := (isPlain_lookup db collection field).fst_run u
  obtain ⟨records, all⟩ := isPlain_all (σ := σ) db
  have ending := run_prefetch source ⟨{ inner }, log⟩
  rw [all, read] at ending
  refine ⟨_, ending, ?_⟩
  rw [sameOffer_iff, direct]
  change enumType? (safeAnswer ((source.cachedLookup collection field).run.run _).1) = _
  rw [fst_run_cachedLookup_of_fresh source, direct]
  · rfl
  · rfl

theorem sameOffer_iff_of_listed_eq_ok (collection field : String)
    {definitions : List FieldDefinition} (read : listed db = .ok definitions) (inner : σ)
    (log : List Log.Record) (s : Session σ) :
    let source : ChoiceSource σ := ofDatabase db
    ∃ t, Step.Yields source.prefetch ⟨{ inner }, log⟩ true t
      ∧ (source.cached.SameOffer t source s collection field
        ↔ enumType? (db.lastOffer collection field)
          = enumType? (db.firstDefinition collection field)) := by
  intro source
  have direct (u : Session σ) := (isPlain_lookup db collection field).fst_run u
  obtain ⟨records, all⟩ := isPlain_all (σ := σ) db
  have ending := run_prefetch source ⟨{ inner }, log⟩
  rw [all, read] at ending
  refine ⟨_, ending, ?_⟩
  rw [sameOffer_iff, direct, safeAnswer_found]
  change enumType? (safeAnswer ((source.cachedLookup collection field).run.run _).1) = _ ↔ _
  rw [fst_run_cachedLookup_of_complete source, safeAnswer, find?_reverse_listed read]
  rfl

/--
Whether prefetching leaves the choices of a field as they are: it does if it fails, and else if the
first row of the field gives the type that its last row with choices gives. With one row for a field
it always does.
-/
theorem sameOffer_prefetched_iff (db : Database) (collection field : String) (inner : σ)
    (log : List Log.Record) (s : Session σ) :
    let source : ChoiceSource σ := ofDatabase db
    ∃ succeeded t, Step.Yields source.prefetch ⟨{ inner }, log⟩ succeeded t
      ∧ (source.cached.SameOffer t source s collection field
          ↔ (succeeded → enumType? (db.lastOffer collection field)
              = enumType? (db.firstDefinition collection field)))
      ∧ ((db.rowsOfField collection field).length ≤ 1 →
          source.cached.SameOffer t source s collection field) := by
  intro source
  rcases read : listed db with fault | definitions
  · obtain ⟨t, ending, same⟩ := sameOffer_of_listed_eq_error read inner log s
    exact ⟨false, t, ending, iff_of_true same (by simp), fun _ => same⟩
  · obtain ⟨t, ending, same⟩ := sameOffer_iff_of_listed_eq_ok collection field read inner log s
    refine ⟨true, t, ending, ?_, ?_⟩
    · rw [same]
      exact ⟨fun h _ => h, fun h => h rfl⟩
    · exact fun single => same.mpr (enumType?_lastOffer_of_length_le_one single)

def statusRow : FieldRow where
  id := 2
  collection := "posts"
  field := "status"
  options := some "\x7b\"choices\": [\"new\"]\x7d"

def statusOffer : FieldDefinition where
  collection := "posts"
  field := "status"
  choices := [⟨.text "new", some "new"⟩]

theorem optionsValue_statusRow :
    statusRow.optionsValue = .ok (.mapping [(.text "choices", .list [.text "new"])]) := by
  have number : number? "\x7b\"choices\": [\"new\"]\x7d" = none := by
    unfold number?
    exact if_pos (by decide)
  have json : readJson "\x7b\"choices\": [\"new\"]\x7d"
      = .ok (.mapping [(.text "choices", .list [.text "new"])]) := by cbv
  rw [FieldRow.optionsValue, statusRow]
  simp only
  rw [number, json]

theorem described_statusRow : statusRow.described = .ok statusOffer := by
  rw [FieldRow.described, optionsValue_statusRow]
  rfl

theorem sameOffer_prefetched_statusRow :
    let source : ChoiceSource Unit := ofDatabase { fieldRows := some [statusRow] }
    ∃ succeeded t, Step.Yields source.prefetch ⟨{ inner := () }, []⟩ succeeded t
      ∧ source.cached.SameOffer t source ⟨(), []⟩ "posts" "status" := by
  intro source
  have byId : fieldRowsById { fieldRows := some [statusRow] } = .ok [statusRow] :=
    fieldRowsById_eq_ok rfl (by decide) (by decide)
  have single : (rowsOfField { fieldRows := some [statusRow] } "posts" "status").length ≤ 1 := by
    rw [rowsOfField, byId]
    decide
  obtain ⟨succeeded, t, ending, -, same⟩ := sameOffer_prefetched_iff
    { fieldRows := some [statusRow] } "posts" "status" () [] (⟨(), []⟩ : Session Unit)
  exact ⟨succeeded, t, ending, same single⟩

def emptyRow : FieldRow where
  id := 1
  collection := "posts"
  field := "status"

/-- A field with two rows, of which only the second one has choices. -/
def registeredTwice : Database where
  fieldRows := some [emptyRow, statusRow]

theorem not_sameOffer_registeredTwice :
    let source : ChoiceSource Unit := ofDatabase registeredTwice
    ∃ t, Step.Yields source.prefetch ⟨{ inner := () }, []⟩ true t
      ∧ ¬source.cached.SameOffer t source ⟨(), []⟩ "posts" "status" := by
  intro source
  have byId : registeredTwice.fieldRowsById = .ok [emptyRow, statusRow] :=
    fieldRowsById_eq_ok rfl (by decide) (by decide)
  have options : registeredTwice.optionRows = .ok [statusRow] := by
    refine bind_eq_ok.mpr ⟨_, byId, ?_⟩
    have only : [emptyRow, statusRow].filter (·.options.isSome) = [statusRow] := rfl
    simp only [only, List.mergeSort_singleton, List.mapM_cons, optionsValue_statusRow]
    rfl
  have rows : registeredTwice.rowsOfField "posts" "status" = [emptyRow, statusRow] := by
    rw [rowsOfField, byId]
    rfl
  have offer : statusRow.offer = some statusOffer := by rw [FieldRow.offer, described_statusRow]; rfl
  have empty : emptyRow.offer = none := rfl
  have described : [statusRow].mapM (fun row => row.described.mapError Fault.foreign)
      = .ok [statusOffer] := by
    rw [List.mapM_cons, described_statusRow]
    rfl
  have read : listed registeredTwice = .ok [statusOffer] :=
    bind_eq_ok.mpr ⟨[statusRow], by rw [options]; rfl, bind_eq_ok.mpr ⟨_, described, rfl⟩⟩
  obtain ⟨t, ending, same⟩ := sameOffer_iff_of_listed_eq_ok "posts" "status" read () []
    (⟨(), []⟩ : Session Unit)
  refine ⟨t, ending, ?_⟩
  rw [same, lastOffer, firstDefinition, rows]
  have last : enumType? ([emptyRow, statusRow].filterMap FieldRow.offer).getLast?
      = .ok (some "'new'") := by
    simp only [List.filterMap_cons, empty, offer]
    rfl
  have first : enumType? ([emptyRow, statusRow].head?.bind fun row => row.described.toOption)
      = .ok none := rfl
  rw [last, first]
  simp

end ChoiceSource

end Typescribe
