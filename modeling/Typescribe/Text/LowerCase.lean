import Typescribe.Text.LowerCaseTable
import Typescribe.Text.Ranges

/-!
This module contains the full lower-case form of texts: one character can become two, and a sigma at
the end of a word has a form of its own.
-/

namespace Typescribe.Text

def lowerCode (n : Nat) : Nat :=
  shifted lowerCaseRuns n

def lowerChar (c : Char) : List Char :=
  if c.toNat == 0x130 then ['i', Char.ofNat 0x307] else [Char.ofNat (lowerCode c.toNat)]

def startsCased (cs : List Char) : Bool :=
  match cs.dropWhile (fun c => inRanges caseIgnorableRanges c.toNat) with
  | [] => false
  | c :: _ => inRanges casedRanges c.toNat

/--
The lower-case form of a text. A capital sigma becomes a final one if a cased character stands
before it and none after it.
-/
def lowerCase (cs : List Char) : List Char :=
  go [] cs
where
  go (before : List Char) : List Char → List Char
    | [] => []
    | c :: rest =>
      let image :=
        if c = 'Σ' then
          [if startsCased before && !startsCased rest then 'ς' else 'σ']
        else
          lowerChar c
      image ++ go (c :: before) rest

end Typescribe.Text
