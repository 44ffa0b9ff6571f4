import Typescribe.Text.Ranges
import Typescribe.Text.WordTable

/-!
This module contains the test for the characters of words.
-/

namespace Typescribe.Text

def isWordChar (c : Char) : Bool :=
  inRanges wordRanges c.toNat

end Typescribe.Text
