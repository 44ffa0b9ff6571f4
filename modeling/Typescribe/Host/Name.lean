import Typescribe.Host.Label
import Typescribe.Host.Numeric

/-!
This module contains host names of several labels, and how they are written in ASCII.
-/

namespace Typescribe.Host

def isLabelEnd (c : Char) : Bool :=
  c = '.' || c = '。' || c = '．' || c = '｡'

def labelsOf (name : List Char) : List (List Char) × Bool :=
  let labels := Text.splitAt '.' (name.map fun c => if isLabelEnd c then '.' else c)
  if 1 < labels.length ∧ labels.getLast? = some [] then (labels.dropLast, true)
  else (labels, false)

def maxNameLength : Nat := 253

def asciiName? (name : List Char) : Option (List Char) := do
  let (labels, endsInPoint) := labelsOf name
  let written := ['.'].intercalate (← labels.mapM asciiLabel?)
  if written.length ≤ maxNameLength then
    return if endsInPoint then written ++ ['.'] else written
  else none

def isAsciiName (name : List Char) : Bool :=
  name.length ≤ maxNameLength + 1 && (labelsOf name).1.all isAsciiLabel

end Typescribe.Host
