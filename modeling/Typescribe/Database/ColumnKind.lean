import Typescribe.Text.LowerCase
import Typescribe.Text.Split

/-!
This module contains the kinds of database columns, and the tag of a column by its kind and the
special flags of its field.
-/

namespace Typescribe.Database

inductive ColumnKind where
  | boolean
  | bigInteger
  | integer
  | float
  | decimal
  | moment (zoned : Bool)
  | date
  | time
  | uuid
  | json
  | text
  | string
  | binary
  | other (name : String)
deriving DecidableEq, Repr

def ColumnKind.tag : ColumnKind → String
  | boolean => "boolean"
  | bigInteger => "bigInteger"
  | integer => "integer"
  | float => "float"
  | decimal => "decimal"
  | moment zoned => if zoned then "timestamp" else "dateTime"
  | date => "date"
  | time => "time"
  | uuid => "uuid"
  | json => "json"
  | text => "text"
  | string => "string"
  | binary => "binary"
  | other name =>
    if Text.occursIn "geometry".toList (Text.lowerCase name.toList) then "geometry" else "unknown"

def flagTags : List (String × String) := [
  ("uuid", "uuid"),
  ("hash", "hash"),
  ("csv", "csv"),
  ("cast-csv", "csv"),
  ("json", "json"),
  ("cast-json", "json"),
  ("boolean", "boolean"),
  ("cast-boolean", "boolean"),
  ("cast-timestamp", "timestamp"),
  ("cast-datetime", "dateTime")
]

/-- The tag of a column: that of the strongest flag of its field, or else that of its kind. -/
def columnTag (kind : ColumnKind) (flags : List String) : String :=
  match flagTags.find? fun (flag, _) => flags.contains flag with
  | some (_, tag) => tag
  | none => kind.tag

end Typescribe.Database
