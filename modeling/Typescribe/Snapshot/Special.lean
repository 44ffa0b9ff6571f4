import Typescribe.Text.Blank
import Typescribe.Text.Split
import Typescribe.Value.Probe

/-!
This module contains the special flags of fields: a list in snapshots, and one text with commas in
the database.
-/

namespace Typescribe.Snapshot

/-- The flags in a text: what stands between commas, trimmed, without the blank parts. -/
def splitFlags (s : String) : List String :=
  (((Text.splitAt ',' s.toList).map Text.trim).filter (!·.isEmpty)).map String.ofList

def specialFlags (special : Value) : Except Cause (List String) :=
  if !special.isTruthy then
    .ok []
  else
    match special with
    | .text s => .ok (splitFlags s)
    | value => do (← value.elements).mapM Value.label

def aliasFlags : List String :=
  ["alias", "o2m", "m2m", "m2a", "no-data", "group", "translations", "files"]

def isAliasField (tag : Option String) (flags : List String) : Bool :=
  tag = some "alias" || flags.any aliasFlags.contains

end Typescribe.Snapshot
