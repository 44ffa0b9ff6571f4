import Typescribe.Fault
import Typescribe.Schema.Basic
import Typescribe.Text.Utf8

/-!
This module contains the checked reading of typed models from values. All members are checked, and
the issues stand in the order in which a model declares its members.
-/

namespace Typescribe

/-- A value that was read, or the issues that were found instead. -/
inductive Checked (α : Type) where
  | valid (value : α)
  | refused (issues : List Issue)
deriving Repr

namespace Checked

variable {α β : Type}

def refuse (refusal : Refusal) : Checked α :=
  refused [⟨[], refusal⟩]

/-- Applies a function that was read to an argument that was read; issues of both add up. -/
def app : Checked (α → β) → Checked α → Checked β
  | valid f, valid a => valid (f a)
  | valid _, refused issues => refused issues
  | refused issues, valid _ => refused issues
  | refused first, refused second => refused (first ++ second)

def map (f : α → β) : Checked α → Checked β
  | valid a => valid (f a)
  | refused issues => refused issues

def under (step : String) : Checked α → Checked α
  | valid a => valid a
  | refused issues => refused (issues.map fun issue => { issue with path := step :: issue.path })

def all (read : Value → Checked α) : List (String × Value) → Checked (List (String × α))
  | [] => valid []
  | (step, value) :: rest =>
    ((read value).under step |>.map fun a as => (step, a) :: as).app (all read rest)

def result (model : String) : Checked α → Except Cause α
  | valid a => .ok a
  | refused issues => .error (.invalid model issues)

/-- Reads a text. Bytes count as the text that they encode. -/
def asText : Value → Checked String
  | .text s => valid s
  | .bytes bs =>
    match Text.decodeUtf8 bs with
    | some cs => valid (String.ofList cs)
    | none => refuse .notUnicode
  | _ => refuse .notText

def orNull (read : Value → Checked α) : Value → Checked (Option α)
  | .null => valid none
  | value => (read value).map some

def boolWords : List (String × Bool) := [
  ("0", false), ("off", false), ("f", false), ("false", false), ("n", false), ("no", false),
  ("1", true), ("on", true), ("t", true), ("true", true), ("y", true), ("yes", true)
]

def boolWord? (s : String) : Option Bool :=
  boolWords.lookup (String.ofList (s.toList.map Char.toLower))

def isWord (n : Int) : Bool :=
  -0x8000000000000000 ≤ n && n < 0x8000000000000000

/-- Reads a whole number as a truth value. Numbers that are too large are of another kind. -/
def wordAsBool (n : Int) : Checked Bool :=
  if n = 0 then valid false
  else if n = 1 then valid true
  else if isWord n then refuse .unreadableBool
  else refuse .notBool

/-- Reads a truth value: also zero and one, and the words for them. -/
def asBool : Value → Checked Bool
  | .bool b => valid b
  | .int n => wordAsBool n
  | .float x =>
    if x == 0.0 then valid false
    else if x == 1.0 then valid true
    else if x.floor == x && x.abs < 9223372036854775808.0 then refuse .unreadableBool
    else refuse .notBool
  | .text s =>
    match boolWord? s with
    | some b => valid b
    | none => refuse .unreadableBool
  | _ => refuse .notBool

/-- Reads a list; the steps are the positions of its items. -/
def asList (read : Value → Checked α) : Value → Checked (List α)
  | .list items =>
    (all read (items.zipIdx.map fun (value, i) => (toString i, value))).map (·.map (·.2))
  | _ => refuse .notList

/-- Reads a mapping; the steps are its keys. -/
def asMapping (read : Value → Checked α) : Value → Checked (List (String × α))
  | .mapping pairs => all read (pairs.map fun (key, value) => (key.shown, value))
  | _ => refuse .notMapping

def asModel (read : List (Value × Value) → Checked α) : Value → Checked α
  | .mapping pairs => read pairs
  | _ => refuse .notModel

def required (name : String) (read : Value → Checked α) (pairs : List (Value × Value)) :
    Checked α :=
  match Value.lookup name pairs with
  | some value => (read value).under name
  | none => refused [⟨[name], .missing⟩]

def withDefault (name : String) (default : α) (read : Value → Checked α)
    (pairs : List (Value × Value)) : Checked α :=
  match Value.lookup name pairs with
  | some value => (read value).under name
  | none => valid default

end Checked

open Checked

def Field.check : Value → Checked Field :=
  asModel fun pairs =>
    (required "collection" asText pairs).map Field.mk
      |>.app (required "field" asText pairs)
      |>.app (withDefault "type" "unknown" asText pairs)
      |>.app (withDefault "nullable" true asBool pairs)
      |>.app (withDefault "alias" false asBool pairs)
      |>.app (withDefault "note" none (orNull asText) pairs)
      |>.app (withDefault "db_type" none (orNull asText) pairs)

def Collection.check : Value → Checked Collection :=
  asModel fun pairs =>
    (required "collection" asText pairs).map Collection.mk
      |>.app (withDefault "singleton" false asBool pairs)
      |>.app (withDefault "fields" [] (asMapping Field.check) pairs)

def RelationMeta.check : Value → Checked RelationMeta :=
  asModel fun pairs =>
    (withDefault "many_collection" none (orNull asText) pairs).map RelationMeta.mk
      |>.app (withDefault "many_field" none (orNull asText) pairs)
      |>.app (withDefault "one_collection" none (orNull asText) pairs)
      |>.app (withDefault "one_field" none (orNull asText) pairs)
      |>.app (withDefault "junction_field" none (orNull asText) pairs)
      |>.app (withDefault "one_allowed_collections" [] (asList asText) pairs)

def Relation.check : Value → Checked Relation :=
  asModel fun pairs =>
    (required "collection" asText pairs).map Relation.mk
      |>.app (required "field" asText pairs)
      |>.app (withDefault "related_collection" none (orNull asText) pairs)
      |>.app (withDefault "foreign_key_column" none (orNull asText) pairs)
      |>.app (withDefault "m2m_field" none (orNull asText) pairs)
      |>.app (withDefault "o2m_field" none (orNull asText) pairs)
      |>.app (withDefault "meta" none (orNull RelationMeta.check) pairs)

def FieldChoice.check : Value → Checked FieldChoice :=
  asModel fun pairs =>
    (required "value" valid pairs).map FieldChoice.mk
      |>.app (withDefault "text" none (orNull asText) pairs)

def FieldDefinition.check : Value → Checked FieldDefinition :=
  asModel fun pairs =>
    (required "collection" asText pairs).map FieldDefinition.mk
      |>.app (required "field" asText pairs)
      |>.app (withDefault "interface" none (orNull asText) pairs)
      |>.app (withDefault "choices" [] (asList FieldChoice.check) pairs)

def Schema.check : Value → Checked Schema :=
  asModel fun pairs =>
    (withDefault "collections" [] (asMapping Collection.check) pairs).map Schema.mk
      |>.app (withDefault "relations" [] (asList Relation.check) pairs)

end Typescribe
