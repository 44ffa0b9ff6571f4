import Typescribe.Decimal.Reading
import Typescribe.Text.Hex
import Typescribe.Text.Split

/-!
This module contains numeric host names: four numbers below 256, or up to eight groups of
hexadecimal digits.
-/

namespace Typescribe.Host

def isOctet (cs : List Char) : Bool :=
  !cs.isEmpty && cs.all Char.isDigit && cs.length ≤ 3 && (cs = ['0'] || cs.head? ≠ some '0')
    && Decimal.ofDigits cs < 256

def isFourNumbers (cs : List Char) : Bool :=
  let parts := Text.splitAt '.' cs
  parts.length = 4 && parts.all isOctet

/--
The progress through four runs of digits with one character between each two of them: even stages
wait for a digit, odd ones are inside a run, and the last one is the fourth run.
-/
def nextStages (stages : List Nat) (c : Char) : List Nat :=
  (List.range 8).filter fun stage =>
    if stage % 2 = 1 then c.isDigit && (stages.contains stage || stages.contains (stage - 1))
    else 0 < stage && c ≠ '\n' && stages.contains (stage - 1)

def looksLikeNumbers (cs : List Char) : Bool :=
  (cs.foldl nextStages [0]).contains 7

def isGroup (cs : List Char) : Bool :=
  !cs.isEmpty && cs.length ≤ 4 && cs.all fun c => (Text.hexValue? c).isSome

/-- The groups of an address; four numbers at its end stand for two groups. -/
def groups? (cs : List Char) : Option (List (List Char)) :=
  let parts := Text.splitAt ':' cs
  let last := parts.getLastD []
  if parts.length < 3 then none
  else if last.contains '.' then
    if isFourNumbers last then some (parts.dropLast ++ [['0'], ['0']]) else none
  else some parts

/--
Are the groups an address? One empty group inside stands for those that are left out; an empty group
at an end has to be beside it.
-/
def isGroups (parts : List (List Char)) : Bool :=
  let inner := parts.tail.dropLast
  match inner.findIdx? (·.isEmpty) with
  | none => parts.length = 8 && parts.all isGroup
  | some index =>
    let before := parts.take (index + 1)
    let after := parts.drop (index + 2)
    let kept := fun groups : List (List Char) => if groups = [[]] then [] else groups
    (kept before).all isGroup && (kept after).all isGroup
      && (kept before).length + (kept after).length < 8

def isGroupAddress (cs : List Char) : Bool :=
  let (address, zone) :=
    match Text.cutAt '%' cs with
    | some (address, zone) => (address, some zone)
    | none => (cs, none)
  !cs.contains '/' && (zone.all fun zone => !zone.isEmpty && !zone.contains '%')
    && (groups? address).any fun parts => parts.length ≤ 9 && isGroups parts

end Typescribe.Host
