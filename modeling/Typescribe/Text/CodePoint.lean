import Typescribe.Text.Utf8

/-!
This module contains texts of code points. Besides characters they can hold halves of surrogate
pairs, which no bytes encode.
-/

namespace Typescribe.Text

/-- A character, or the half of a surrogate pair that stands so far behind U+D800. -/
inductive CodePoint where
  | character (c : Char)
  | surrogate (offset : Fin 0x800)
deriving DecidableEq, Repr

def CodePoint.character? : CodePoint → Option Char
  | character c => some c
  | surrogate _ => none

def codePoints (s : String) : List CodePoint :=
  s.toList.map .character

/-- The UTF-8 bytes of a text, unless it holds half of a surrogate pair. -/
def encode? (points : List CodePoint) : Option (List Nat) :=
  (points.mapM CodePoint.character?).map encodeUtf8

theorem mapM_character?_codePoints (s : String) :
    (codePoints s).mapM CodePoint.character? = some s.toList := by
  unfold codePoints
  induction s.toList with
  | nil => rfl
  | cons c cs ih =>
    rw [List.map_cons, List.mapM_cons, ih]
    rfl

theorem encode?_codePoints (s : String) : encode? (codePoints s) = some (encodeUtf8 s.toList) := by
  rw [encode?, mapM_character?_codePoints]
  rfl

end Typescribe.Text
