/-!
This module contains the values that documents are made of: what a JSON text or a YAML document can
hold.
-/

namespace Typescribe

structure Date where
  year : Nat
  month : Nat
  day : Nat
deriving DecidableEq, Repr, Inhabited

/-- A calendar date with a time of day and perhaps a distance to universal time in minutes. -/
structure Moment where
  date : Date
  hour : Nat
  minute : Nat
  second : Nat
  microsecond : Nat
  offset : Option Int
deriving DecidableEq, Repr, Inhabited

/--
The value of a document node. The pairs of a mapping stand in the order of the document. A
collection can hold itself: it then has a label, and within it the label stands for it.
-/
inductive Value where
  | null
  | bool (b : Bool)
  | int (n : Int)
  | float (x : Float)
  | text (s : String)
  | list (items : List Value)
  | mapping (pairs : List (Value × Value))
  | date (d : Date)
  | moment (m : Moment)
  | bytes (bytes : List Nat)
  | set (items : List Value)
  | tuple (items : List Value)
  | loop (label : List Nat) (content : Value)
  | back (label : List Nat)
deriving Repr, Inhabited

namespace Value

def isTruthy : Value → Bool
  | null => false
  | bool b => b
  | int n => n ≠ 0
  | float x => !(x == 0.0)
  | text s => s ≠ ""
  | list items => !items.isEmpty
  | mapping pairs => !pairs.isEmpty
  | date _ => true
  | moment _ => true
  | bytes bs => !bs.isEmpty
  | set items => !items.isEmpty
  | tuple items => !items.isEmpty
  | loop _ content => content.isTruthy
  | back _ => true

def kindName : Value → String
  | null => "NoneType"
  | bool _ => "bool"
  | int _ => "int"
  | float _ => "float"
  | text _ => "str"
  | list _ => "list"
  | mapping _ => "dict"
  | date _ => "date"
  | moment _ => "datetime"
  | bytes _ => "bytes"
  | set _ => "set"
  | tuple _ => "tuple"
  | loop _ content => content.kindName
  | back _ => "list"

def lookup (name : String) : List (Value × Value) → Option Value
  | [] => none
  | (text key, value) :: rest => if key = name then some value else lookup name rest
  | _ :: rest => lookup name rest

def isKey : Value → Bool
  | list _ | mapping _ | set _ | tuple _ | loop _ _ | back _ => false
  | _ => true

end Value

end Typescribe
