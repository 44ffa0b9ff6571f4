import Typescribe.Host.CompositionTable

/-!
This module contains the test whether a text is in its composed normal form: marks stand in their
order, and characters that make one character together do so.
-/

namespace Typescribe.Host

/-- The class of a mark; zero for characters that are no marks. -/
def markClass (n : Nat) : Nat :=
  match markClasses.find? fun (first, last, _) => first ≤ n && n ≤ last with
  | some (_, _, number) => number
  | none => 0

/-- The characters that a character is made of. The fuel bounds how often it is taken apart. -/
def decompose : (fuel : Nat) → Nat → List Nat
  | 0, n => [n]
  | fuel + 1, n =>
    match compositions.find? fun (_, _, whole) => whole = n with
    | some (first, second, _) => decompose fuel first ++ [second]
    | none => [n]

/-- Puts a character in its place behind others: a mark stands behind the marks of its class. -/
def insertMark (n : Nat) : List Nat → List Nat
  | [] => [n]
  | m :: rest =>
    if markClass m ≠ 0 && markClass n < markClass m then n :: m :: rest
    else m :: insertMark n rest

/-- The characters with the marks of each character in the order of their classes. -/
def orderMarks (ns : List Nat) : List Nat :=
  go [] ns
where
  go (marks : List Nat) : List Nat → List Nat
    | [] => marks
    | n :: rest =>
      if markClass n = 0 then marks ++ n :: go [] rest else go (insertMark n marks) rest

def composed? (first second : Nat) : Option Nat :=
  (compositions.find? fun (a, b, _) => a = first && b = second).map (·.2.2)

/--
Composes characters. A character joins the last one that is no mark unless a mark of its class or of
a later one stands between them.
-/
def compose : (start : Option Nat) → (between : List Nat) → List Nat → List Nat
  | start, between, [] => start.toList ++ between
  | start, between, n :: rest =>
    let isBlocked := between.getLast?.any fun m => decide (markClass n ≤ markClass m)
    match start.bind fun first => if isBlocked then none else composed? first n with
    | some whole => compose (some whole) between rest
    | none =>
      if markClass n = 0 then start.toList ++ between ++ compose (some n) [] rest
      else compose start (between ++ [n]) rest

/-- The most often that a character can be taken apart. -/
def maxDepth : Nat := 4

def isComposed (cs : List Char) : Bool :=
  let ns := cs.map Char.toNat
  compose none [] (orderMarks (ns.flatMap (decompose maxDepth))) = ns

end Typescribe.Host
