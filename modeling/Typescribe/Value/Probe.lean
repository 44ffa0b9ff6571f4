import Typescribe.Decimal.Rounded
import Typescribe.Fault
import Typescribe.Value.Loop

/-!
This module contains the ways in which a document of unknown shape is probed, with the cause of each
way to fail.
-/

namespace Typescribe.Value

/-- The value of a member, or none if the mapping lacks it; other values have no members. -/
def member? (name : String) (value : Value) : Except Cause (Option Value) :=
  match value.opened with
  | mapping pairs => .ok (lookup name pairs)
  | _ => .error .noMembers

def item (name : String) (value : Value) : Except Cause Value :=
  match value.opened with
  | mapping pairs =>
    match lookup name pairs with
    | some value => .ok value
    | none => .error (.missingKey (.text name))
  | _ => .error .wrongKind

/-- What a value holds: items, keys, characters or bytes. -/
def elements (value : Value) : Except Cause (List Value) :=
  match value.opened with
  | list items => .ok items
  | set items => .ok items
  | mapping pairs => .ok (pairs.map (·.1))
  | text s => .ok (s.toList.map fun c => .text (String.singleton c))
  | bytes bs => .ok (bs.map fun byte => .int (Int.ofNat byte))
  | tuple items => .ok items
  | _ => .error .wrongKind

mutual

def isShowable : Value → Bool
  | int n => Decimal.isPrintable n
  | list items | set items | tuple items => areShowable items
  | mapping pairs => arePairsShowable pairs
  | loop _ content => content.isShowable
  | _ => true

def areShowable : List Value → Bool
  | [] => true
  | item :: items => item.isShowable && areShowable items

def arePairsShowable : List (Value × Value) → Bool
  | [] => true
  | (key, value) :: pairs => key.isShowable && value.isShowable && arePairsShowable pairs

end

/-- The value as plain text; whole numbers with too many digits have none. -/
def label (value : Value) : Except Cause String :=
  if value.isShowable then .ok value.shown else .error (.badValue Decimal.unprintableText)

def wholePart (x : Float) : Except Cause Int :=
  if x.isNaN then .error (.badValue "cannot convert float NaN to integer")
  else if x.isInf then .error .overflow
  else .ok (Decimal.truncate x)

def orElse (value : Option Value) (other : Value) : Value :=
  match value with
  | some value => if value.isTruthy then value else other
  | none => other

def orEmpty (value : Option Value) : Value :=
  orElse value (.mapping [])

end Typescribe.Value
