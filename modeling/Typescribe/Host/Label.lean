import Typescribe.Host.Composition
import Typescribe.Host.DirectionTable
import Typescribe.Host.JoiningTable
import Typescribe.Host.Punycode
import Typescribe.Host.ValidTable
import Typescribe.Text.Ranges
import Typescribe.Text.Split

/-!
This module contains the labels of host names: which texts are labels, and how a label is written in
ASCII.
-/

namespace Typescribe.Host

/-! ### Characters in their context -/

def silencerClass : Nat := 9

def joining? (c : Char) : Option Joining :=
  (joiningRanges.find? fun (first, last, _) => first ≤ c.toNat && c.toNat ≤ last).map (·.2.2)

def joinsOn (side : Joining) (cs : List Char) : Bool :=
  match (cs.dropWhile fun c => joining? c = some .transparent).head?.bind joining? with
  | some joining => joining = side || joining = .both
  | none => false

def followsSilencer (before : List Char) : Bool :=
  before.head?.any fun c => markClass c.toNat = silencerClass

def greekRanges : List (Nat × Nat) :=
  [(0x371, 0x3E1), (0x3F3, 0x3FC), (0x1D26, 0x1D2A), (0x1F00, 0x1FF6), (0xAB65, 0xAB65)]

def hebrewRanges : List (Nat × Nat) := [(0x591, 0x5F4), (0xFB1E, 0xFB1E)]

def eastAsianRanges : List (Nat × Nat) := [
  (0x3005, 0x3005), (0x3007, 0x3007), (0x3041, 0x3096), (0x309D, 0x309E), (0x30A1, 0x30FA),
  (0x30FD, 0x30FE), (0x31F0, 0x31FF), (0x3400, 0x9FFF), (0xFA0E, 0xFA29), (0x16FE3, 0x16FE3),
  (0x16FF0, 0x16FF3), (0x1AFF0, 0x1B000), (0x1B001, 0x1B11F), (0x1B120, 0x1B122),
  (0x1B132, 0x1B152), (0x1B155, 0x1B167), (0x20000, 0x33479)
]

def isIn (ranges : List (Nat × Nat)) (c : Char) : Bool :=
  Text.inRanges ranges c.toNat

/--
Can the character stand in its place, between the characters before it, the last one first, and
those behind it? Some characters need neighbours of a kind.
-/
def fits (before : List Char) (c : Char) (after : List Char) : Bool :=
  let n := c.toNat
  if n = 0x200C then followsSilencer before || (joinsOn .left before && joinsOn .right after)
  else if n = 0x200D then followsSilencer before
  else if n = 0xB7 then before.head? = some 'l' && after.head? = some 'l'
  else if n = 0x375 then after.head?.any (isIn greekRanges)
  else if n = 0x5F3 || n = 0x5F4 then before.head?.any (isIn hebrewRanges)
  else if n = 0x30FB then before.any (isIn eastAsianRanges) || after.any (isIn eastAsianRanges)
  else if 0x660 ≤ n && n ≤ 0x669 then !(before ++ after).any (isIn [(0x6F0, 0x6F9)])
  else if 0x6F0 ≤ n && n ≤ 0x6F9 then !(before ++ after).any (isIn [(0x660, 0x669)])
  else isIn validRanges c

def allFit : (before : List Char) → List Char → Bool
  | _, [] => true
  | before, c :: after => fits before c after && allFit (c :: before) after

/-! ### Directions -/

def direction (c : Char) : Direction :=
  match directionRanges.find? fun (first, last, _) => first ≤ c.toNat && c.toNat ≤ last with
  | some (_, _, direction) => direction
  | none => .left

def lastDirection? (directions : List Direction) : Option Direction :=
  (directions.filter (· ≠ .mark)).getLast?

/--
Do directions go together? A label with characters that are written to the left begins with one of
them or with one that is written to the right, does not mix directions, and ends with no sign.
-/
def agree (directions : List Direction) : Bool :=
  !directions.contains .unknown &&
    (!(directions.contains .right || directions.contains .arabicNumber) ||
      match directions.head? with
      | some .right =>
        !directions.contains .left
          && !(directions.contains .number && directions.contains .arabicNumber)
          && (lastDirection? directions).any (· ≠ .neutral)
      | some .left => false
      | _ => false)

/-! ### Labels -/

/-- Do hyphens stand inside of the label only, and not at its third and fourth place? -/
def hyphensFit (label : List Char) : Bool :=
  (label.drop 2).take 2 ≠ ['-', '-'] && label.head? ≠ some '-' && label.getLast? ≠ some '-'

def isLabel (label : List Char) : Bool :=
  !label.isEmpty && hyphensFit label && !(label.head?.any (isIn markRanges)) && allFit [] label
    && isComposed label && agree (label.map direction)

def asciiStart : List Char := "xn--".toList

def maxLabelLength : Nat := 63

def isAsciiLabel (label : List Char) : Bool :=
  if Text.startsWith asciiStart label then
    label.getLast? ≠ some '-' && ((Punycode.decode? (label.drop asciiStart.length)).any isLabel)
  else isLabel label

def asciiLabel? (label : List Char) : Option (List Char) :=
  let written := if label.all (·.toNat < 0x80) then label else asciiStart ++ Punycode.encode label
  let isValid := if label.all (·.toNat < 0x80) then isAsciiLabel label else isLabel label
  if isValid && written.length ≤ maxLabelLength then some written else none

end Typescribe.Host
