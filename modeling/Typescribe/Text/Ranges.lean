/-!
This module contains the look-up of characters in tables of ranges.
-/

namespace Typescribe.Text

def inRanges (ranges : List (Nat × Nat)) (n : Nat) : Bool :=
  ranges.any fun (first, last) => first ≤ n && n ≤ last

/--
The number moved by the distance of the run that it belongs to, if there is one. A run has a first
and a last member, a step between its members, and a distance.
-/
def shifted (runs : List (Nat × Nat × Nat × Int)) (n : Nat) : Nat :=
  match runs.find? (fun (first, last, step, _) =>
      first ≤ n && n ≤ last && (n - first) % step == 0) with
  | some (_, _, _, distance) => (n + distance).toNat
  | none => n

end Typescribe.Text
