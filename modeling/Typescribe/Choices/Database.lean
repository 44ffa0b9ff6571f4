import Typescribe.Choices.Source
import Typescribe.Database.Basic
import Typescribe.Snapshot.Options

/-!
This module contains the source of choices that reads them from the registered fields of a database.
-/

namespace Typescribe

namespace Database

variable {σ : Type}

def FieldRow.definition (row : FieldRow) : Step σ FieldDefinition := do
  let options ← Snapshot.orFail row.optionsValue
  Snapshot.buildDefinition (.text row.collection) (.text row.field)
    ((row.interface.map Value.text).getD .null) options

/-- The order of fields by the names of their collections and their own names. -/
def FieldRow.namePrecedes (a b : FieldRow) : Bool :=
  decide (a.collection < b.collection ∨ (a.collection = b.collection ∧ a.field ≤ b.field))

def lookupRow (db : Database) (collection field : String) : Except Cause (Option FieldRow) := do
  return (← db.fieldRowsById).find? fun row =>
    row.collection = collection && row.field = field

/-- The registered fields with options by name. The options of all of them are read. -/
def optionRows (db : Database) : Except Cause (List FieldRow) := do
  let rows := (← db.fieldRowsById).filter (·.options.isSome)
  let rows := rows.mergeSort FieldRow.namePrecedes
  discard (rows.mapM FieldRow.optionsValue)
  return rows

end Database

namespace ChoiceSource

variable {σ : Type}

/-- The fault of a query; only one of the database itself is a failed lookup. -/
def queryFault (problem : Cause → LookupProblem) : Cause → Fault
  | .database => .lookup (problem .database)
  | cause => .foreign cause

def ofDatabase (db : Database) : ChoiceSource σ where
  lookup collection field := do
    let row ← Step.ofExcept ((db.lookupRow collection field).mapError
      (queryFault (.tableLookup collection field)))
    match row with
    | none => return none
    | some row => return some (← row.definition)
  all := do
    let rows ← Step.ofExcept (db.optionRows.mapError (queryFault .tablePrefetch))
    let definitions ← rows.mapM Database.FieldRow.definition
    return definitions.filter (!·.choices.isEmpty)

end ChoiceSource

end Typescribe
