import Typescribe.Json.Writer
import Typescribe.Naming.Literal
import Typescribe.Schema.Basic

/-!
This module contains the types of fields with a fixed set of choices: unions of literal types.
-/

namespace Typescribe.Declaration

/--
The literal type of the value of a choice. Texts and numbers have one; of other values the JSON text
takes their place.
-/
def choiceLiteral : Value → Except Json.Unwritable String
  | .text s => .ok (Naming.stringLiteral s)
  | .int n => Json.write (.int n)
  | .float x => Json.write (.float x)
  | value => (Json.write value).map Naming.stringLiteral

def enumType? (definition : Option FieldDefinition) : Except Json.Unwritable (Option String) :=
  match definition with
  | none => .ok none
  | some definition =>
    if definition.choices.isEmpty then
      .ok none
    else do
      let literals ← definition.choices.mapM fun choice => choiceLiteral choice.value
      let union := String.intercalate " | " literals
      return some (if definition.isMultiple then "(" ++ union ++ ")[]" else union)

end Typescribe.Declaration
