import Typescribe.Decimal.Reading
import Typescribe.Fault
import Typescribe.Yaml.Key
import Typescribe.Yaml.Tag

/-!
This module contains the values of timestamps: dates, and moments with a time of day.
-/

namespace Typescribe.Yaml

def dateOf (year month day : Nat) : Except Cause Date :=
  if year = 0 then .error (.badValue "year 0 is out of range")
  else if month < 1 ∨ 12 < month then .error (.badValue "month must be in 1..12")
  else if day < 1 ∨ daysInMonth year month < day then
    .error (.badValue "day is out of range for month")
  else .ok ⟨year, month, day⟩

def offsetOf (negative : Bool) (hours minutes : Nat) : Except Cause Int :=
  let total := hours * 60 + minutes
  if total < 1440 then .ok (if negative then -(total : Int) else total)
  else
    let seconds : Int := if negative then -(total * 60 : Int) else total * 60
    let days := seconds / 86400
    let rest := seconds % 86400
    .error (.badValue ("offset must be a timedelta strictly between -timedelta(hours=24) and "
      ++ "timedelta(hours=24), not datetime.timedelta(days=" ++ toString days
      ++ (if rest = 0 then "" else ", seconds=" ++ toString rest) ++ ")."))

/-- The microseconds of a fraction of a second: its first six digits. -/
def microseconds (fraction : List Char) : Nat :=
  let digits := fraction.take 6
  Decimal.ofDigits (digits ++ List.replicate (6 - digits.length) '0')

/-- The value of the text of a scalar as a timestamp. A line feed at its end does not count. -/
def timestampOf (text : List Char) : Except Cause Value :=
  match readTimestamp (withoutFinalBreak text) with
  | none => .error .noMembers
  | some t => do
    let number := Decimal.ofDigits
    let date := (number t.year, number t.month, number t.day)
    match t.time with
    | none => return .date (← dateOf date.1 date.2.1 date.2.2)
    | some (hour, minute, second) =>
      let offset ←
        match t.zone with
        | none => pure none
        | some (negative, hours, minutes) =>
          pure (some (← offsetOf negative (number hours) (number minutes)))
      let date ← dateOf date.1 date.2.1 date.2.2
      if 23 < number hour then .error (.badValue "hour must be in 0..23")
      else if 59 < number minute then .error (.badValue "minute must be in 0..59")
      else if 59 < number second then .error (.badValue "second must be in 0..59")
      else
        return .moment ⟨date, number hour, number minute, number second,
          microseconds t.fraction, offset⟩

end Typescribe.Yaml
