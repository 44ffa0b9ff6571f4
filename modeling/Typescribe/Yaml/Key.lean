import Typescribe.Decimal.Rounded
import Typescribe.Value.Basic

/-!
This module contains the comparison of keys. Numbers are compared by their exact values, truth
values count as numbers, and moments with a distance to universal time are compared by the time at
which they are.
-/

namespace Typescribe.Yaml

def daysBeforeYear (year : Nat) : Nat :=
  let past := year - 1
  past * 365 + past / 4 - past / 100 + past / 400

def isLeapYear (year : Nat) : Bool :=
  year % 4 = 0 && (year % 100 ≠ 0 || year % 400 = 0)

def daysInMonth (year month : Nat) : Nat :=
  if month = 2 then (if isLeapYear year then 29 else 28)
  else if month = 4 || month = 6 || month = 9 || month = 11 then 30
  else 31

def dayNumber (d : Date) : Nat :=
  (List.range (d.month - 1)).foldl (fun days month => days + daysInMonth d.year (month + 1))
    (daysBeforeYear d.year + d.day)

def instant (m : Moment) (offset : Int) : Int :=
  let minutes : Int := (dayNumber m.date * 24 + m.hour) * 60 + m.minute
  ((minutes - offset) * 60 + m.second) * 1000000 + m.microsecond

/-- Are two moments the same? One with a distance to universal time differs from one without. -/
def sameMoment (a b : Moment) : Bool :=
  match a.offset, b.offset with
  | some p, some q => instant a p = instant b q
  | none, none => a = b
  | _, _ => false

def whole? : Value → Option Int
  | .int n => some n
  | .bool b => some (if b then 1 else 0)
  | .float x => if x.isFinite && x.floor == x then some (Decimal.truncate x) else none
  | _ => none

/-- Are two keys the same? What is no number is the same as nothing. -/
def sameKey : Value → Value → Bool
  | .null, .null => true
  | .text a, .text b => a = b
  | .bytes a, .bytes b => a = b
  | .date a, .date b => a = b
  | .moment a, .moment b => sameMoment a b
  | a, b =>
    match whole? a, whole? b, a, b with
    | some m, some n, _, _ => m = n
    | none, none, .float x, .float y => x == y
    | _, _, _, _ => false

end Typescribe.Yaml
