import Typescribe.Value.Basic

/-!
This module contains the opening of collections that hold themselves, so that one can look at what
is in them.
-/

namespace Typescribe.Value

mutual

def replaceBack (label : List Nat) (replacement : Value) : Value → Value
  | back other => if other = label then replacement else back other
  | loop other content =>
    if other = label then loop other content
    else loop other (replaceBack label replacement content)
  | list items => list (replaceBackAll label replacement items)
  | set items => set (replaceBackAll label replacement items)
  | mapping pairs => mapping (replaceBackPairs label replacement pairs)
  | tuple items => tuple (replaceBackAll label replacement items)
  | value => value

def replaceBackAll (label : List Nat) (replacement : Value) : List Value → List Value
  | [] => []
  | item :: items =>
    replaceBack label replacement item :: replaceBackAll label replacement items

def replaceBackPairs (label : List Nat) (replacement : Value) :
    List (Value × Value) → List (Value × Value)
  | [] => []
  | (key, value) :: pairs =>
    (replaceBack label replacement key, replaceBack label replacement value)
      :: replaceBackPairs label replacement pairs

end

/-- The value itself, whose items are whole values even if it holds itself. -/
def opened : Value → Value
  | loop label content => replaceBack label (loop label content) content
  | value => value

end Typescribe.Value
