import Typescribe.Schema.Basic
import Typescribe.Text.Blank
import Typescribe.Text.Lines

/-!
This module contains the comment above a member: the note on the field and where its type comes
from.
-/

namespace Typescribe.Declaration

def escapeCommentEnd : List Char → List Char
  | '*' :: '/' :: rest => '*' :: '\\' :: '/' :: escapeCommentEnd rest
  | c :: rest => c :: escapeCommentEnd rest
  | [] => []

/-- The lines of a note, each fit for a comment; a note without lines counts as an empty one. -/
def noteLines (note : List Char) : List (List Char) :=
  match Text.splitLines note with
  | [] => [[]]
  | lines => lines.map fun line => Text.trimEnd (escapeCommentEnd line)

def noteText (field : Field) : String :=
  match field.note with
  | some note => if note ≠ "" then note else "No description."
  | none => "No description."

def columnTypeText (field : Field) : String :=
  match field.columnType with
  | some type => if type ≠ "" then type else "no column"
  | none => "no column"

def commentLine (line : List Char) : String :=
  String.ofList (Text.trimEnd ("   * ".toList ++ line))

def commentLines (field : Field) : List String :=
  "  /**" :: (noteLines (noteText field).toList).map commentLine
    ++ ["   *", "   * Type in directus: " ++ field.typeTag,
      "   * Type in database: " ++ columnTypeText field, "   */"]

end Typescribe.Declaration
