import Typescribe.Text.Ranges
import Typescribe.Text.UpperCaseTable

/-!
This module contains the full upper-case form of texts: one character can become several.
-/

namespace Typescribe.Text

def upperChar (c : Char) : List Char :=
  match upperCaseExpansions.lookup c.toNat with
  | some expansion => expansion.map Char.ofNat
  | none => [Char.ofNat (shifted upperCaseRuns c.toNat)]

def upperCase (cs : List Char) : List Char :=
  cs.flatMap upperChar

end Typescribe.Text
