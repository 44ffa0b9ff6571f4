import Typescribe.Decimal.Reading
import Typescribe.Decimal.Whole
import Typescribe.Schema.Validation
import Typescribe.Settings.EnvironmentFile
import Typescribe.Text.LowerCase

/-!
This module contains the settings of the program, which are read from the environment and from an
environment file. What the environment says wins.
-/

namespace Typescribe

structure Settings where
  snapshotPath : Option String := none
  directusUrl : Option String := none
  directusToken : Option String := none
  databaseUrl : Option String := none
  requestTimeout : Float := 10.0
  prefetchChoices : Bool := true
  includeSystemCollections : Bool := true
  jsonType : String := "any"
  lenientTypes : Bool := false
  logLevel : String := "INFO"

namespace Settings

open Checked

def namePrefix : String := "directus_typegen_"

def withoutLows (cs : List Char) : Option (List Char) :=
  if cs.contains '_' && cs.head? ≠ some '_' && cs.getLast? ≠ some '_'
      && !Text.occursIn ['_', '_'] cs then
    some (cs.filter (· ≠ '_'))
  else none

def asNumber : Value → Checked Float
  | .text s =>
    let cs := s.toList.map Char.toLower
    let exact := Decimal.read? (Decimal.strip cs)
    match exact.orElse fun _ => (withoutLows cs).bind Decimal.read? with
    | some x => valid x
    | none => refuse .unreadableNumber
  | _ => refuse .unreadableNumber

def jsonTypes : List String := ["any", "unknown"]

def asJsonType : Value → Checked String
  | .text s => if jsonTypes.contains s then valid s else refuse .notInChoice
  | _ => refuse .notInChoice

def check (pairs : List (Value × Value)) : Checked Settings :=
  (withDefault "snapshot_path" none (orNull asText) pairs).map Settings.mk
    |>.app (withDefault "directus_url" none (orNull asText) pairs)
    |>.app (withDefault "directus_token" none (orNull asText) pairs)
    |>.app (withDefault "database_url" none (orNull asText) pairs)
    |>.app (withDefault "request_timeout_seconds" 10.0 asNumber pairs)
    |>.app (withDefault "prefetch_choices" true asBool pairs)
    |>.app (withDefault "include_system_collections" true asBool pairs)
    |>.app (withDefault "json_type" "any" asJsonType pairs)
    |>.app (withDefault "lenient_types" false asBool pairs)
    |>.app (withDefault "log_level" "INFO" asText pairs)

def foldName (name : String) : String :=
  String.ofList (Text.lowerCase name.toList)

def foldNames (bindings : List EnvironmentFile.Binding) : List EnvironmentFile.Binding :=
  Ordered.ofList (bindings.map fun (name, value) => (foldName name, value))

def settingPairs (bindings : List EnvironmentFile.Binding) : List (Value × Value) :=
  bindings.filterMap fun (name, value) =>
    match value with
    | some value =>
      if Text.startsWith namePrefix.toList name.toList then
        some (.text (String.ofList (name.toList.drop namePrefix.length)), .text value)
      else none
    | none => none

def load (environment : List (String × String)) (file : List Char) : Except Cause Settings :=
  let outer := settingPairs (foldNames (environment.map fun (name, value) => (name, some value)))
  let inner := settingPairs (foldNames (EnvironmentFile.read environment file))
  (check (outer ++ inner)).result "Settings"

end Settings

end Typescribe
