/-!
This module contains the types of plain columns.
-/

namespace Typescribe.Declaration

/-- The types of the type tags, but for `json`. Dates and times are texts in an exchange. -/
def scalarTypes : List (String × String) := [
  ("boolean", "boolean"), ("integer", "number"), ("float", "number"), ("decimal", "number"),
  ("bigInteger", "number"), ("date", "string"), ("dateTime", "string"), ("time", "string"),
  ("timestamp", "string"), ("text", "string"), ("string", "string"), ("uuid", "string"),
  ("hash", "string"), ("csv", "string[]")
]

/-- The type of a type tag, if the tag has one; the type of `json` is a choice of the caller. -/
def scalarType? (jsonType tag : String) : Option String :=
  if tag = "json" then some jsonType else scalarTypes.lookup tag

def unsupportedType (tag : String) : String :=
  "unsupported type '" ++ tag ++ "'"

end Typescribe.Declaration
