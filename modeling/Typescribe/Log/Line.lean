import Typescribe.Log.Record
import Typescribe.Log.Template
import Typescribe.Text.UpperCase

/-!
This module contains the lines of the log, and which severities it takes.
-/

namespace Typescribe.Log

def lineTemplate : String :=
  "%(asctime)s %(levelname)s %(name)s [collection=%(collection)s field=%(field)s] - %(message)s"

def thresholds : List (String × Nat) := [
  ("CRITICAL", 50),
  ("FATAL", 50),
  ("ERROR", 40),
  ("WARNING", 30),
  ("WARN", 30),
  ("INFO", 20),
  ("DEBUG", 10),
  ("NOTSET", 0)
]

/-- The name of the severity with a number: the first one. -/
def levelName (number : Nat) : String :=
  ((thresholds.find? fun (_, n) => n = number).map (·.1)).getD ("Level " ++ toString number)

/-- What a record is made of: who writes it, how severe it is, and a message for arguments. -/
def attributesOf (name : Value) (level : String) (message : Value) (arguments : List Value) :
    List (String × Value) :=
  let number := (thresholds.lookup level).getD 0
  [("name", name), ("msg", message), ("args", argumentsOf arguments),
    ("levelname", .text (levelName number)), ("levelno", .int number), ("exc_info", .null),
    ("exc_text", .null), ("stack_info", .null), ("threadName", .text "MainThread"),
    ("processName", .text "MainProcess")]

/-- The attributes of a record; its message is written without arguments, in a context. -/
def Record.attributes (time : String) (record : Record) : List (String × Value) :=
  attributesOf (.text record.origin.name) record.level.name (.text record.message) [] ++ [
    ("asctime", .text time),
    ("collection", .text record.collection),
    ("field", .text record.field)]

def Record.line (time : String) (record : Record) : Except Cause String :=
  formattedRecord lineTemplate (record.attributes time)

def threshold (level : String) : Except Cause Nat :=
  let name := String.ofList (Text.upperCase level.toList)
  match thresholds.lookup name with
  | some number => .ok number
  | none => .error (.badValue ("Unknown level: " ++ (Value.text name).nested))

def taken (threshold : Nat) (records : List Record) : List Record :=
  records.filter fun record => threshold ≤ record.level.number

end Typescribe.Log
