/-!
This module contains the writing of texts in ASCII: the ASCII characters of a text come first, and
then numbers that say where which other characters stand. The numbers have digits of a base whose
thresholds adapt to the numbers before them.
-/

namespace Typescribe.Host.Punycode

def digitChar (digit : Nat) : Char :=
  if digit < 26 then Char.ofNat (0x61 + digit) else Char.ofNat (0x30 + digit - 26)

/-- The value of a digit; letters count in either case. -/
def digit? (c : Char) : Option Nat :=
  let n := c.toNat
  if 0x61 ≤ n && n ≤ 0x7A then some (n - 0x61)
  else if 0x41 ≤ n && n ≤ 0x5A then some (n - 0x41)
  else if 0x30 ≤ n && n ≤ 0x39 then some (n - 0x30 + 26)
  else none

/-- The threshold of the digit at a place: a digit below it is the last one. -/
def threshold (bias place : Nat) : Nat :=
  min 26 (max 1 (36 * (place + 1) - bias))

theorem threshold_pos (bias place : Nat) : 1 ≤ threshold bias place := by
  unfold threshold
  omega

def divisions (bias delta : Nat) : Nat × Nat :=
  if 455 < delta then divisions (bias + 36) (delta / 35) else (bias, delta)
termination_by delta
decreasing_by omega

def adapt (delta : Nat) (isFirst : Bool) (count : Nat) : Nat :=
  let delta := if isFirst then delta / 700 else delta / 2
  let (bias, rest) := divisions 0 (delta + delta / count)
  bias + 36 * rest / (rest + 38)

def writeNumber (bias place n : Nat) : List Char :=
  let t := threshold bias place
  if n < t then [digitChar n]
  else
    digitChar (t + (n - t) % (36 - t)) :: writeNumber bias (place + 1) ((n - t) / (36 - t))
termination_by n
decreasing_by
  have low := threshold_pos bias place
  have := Nat.div_le_self (n - threshold bias place) (36 - threshold bias place)
  omega

/-- What has been written so far. -/
structure Writing where
  text : List Char := []
  delta : Nat := 0
  bias : Nat := 72
  placed : Nat

def Writing.pass (ascii n : Nat) (w : Writing) (c : Char) : Writing :=
  if c.toNat < n then { w with delta := w.delta + 1 }
  else if c.toNat = n then
    { text := w.text ++ writeNumber w.bias 0 w.delta
      delta := 0
      bias := adapt w.delta (w.placed = ascii) (w.placed + 1)
      placed := w.placed + 1 }
  else w

def Writing.run (text : List Char) (ascii : Nat) : (last : Nat) → List Nat → Writing → Writing
  | _, [], w => w
  | last, n :: rest, w =>
    let w := { w with delta := w.delta + (n - last) * (w.placed + 1) }
    let w := text.foldl (pass ascii n) w
    run text ascii (n + 1) rest { w with delta := w.delta + 1 }

def encode (text : List Char) : List Char :=
  let ascii := text.filter (·.toNat < 0x80)
  let others := (text.filter (0x80 ≤ ·.toNat)).map Char.toNat
  let others := (others.mergeSort fun a b => decide (a ≤ b)).eraseDups
  let written := Writing.run text ascii.length 0x80 others { placed := ascii.length }
  ascii ++ (if ascii.isEmpty then [] else ['-']) ++ written.text

/-- Reads a number: its value, and the text behind it. -/
def readNumber (bias : Nat) :
    (place weight value : Nat) → List Char → Option (Nat × List Char)
  | _, _, _, [] => none
  | place, weight, value, c :: rest =>
    match digit? c with
    | none => none
    | some digit =>
      let value := value + digit * weight
      let t := threshold bias place
      if digit < t then some (value, rest)
      else readNumber bias (place + 1) (weight * (36 - t)) value rest

/--
Places the characters that numbers stand for. The fuel is at least the length of their text.
-/
def place : (fuel : Nat) → (text : List Nat) → (n index bias : Nat) → (isFirst : Bool) →
    List Char → Option (List Nat)
  | 0, text, _, _, _, _, _ => some text
  | _, text, _, _, _, _, [] => some text
  | fuel + 1, text, n, index, bias, isFirst, cs =>
    match readNumber bias 0 1 0 cs with
    | none => none
    | some (delta, rest) =>
      let count := text.length + 1
      let index := index + delta
      let n := n + index / count
      if 0x110000 ≤ n then none
      else
        let index := index % count
        let text := text.take index ++ n :: text.drop index
        place fuel text n (index + 1) (adapt delta isFirst count) false rest

def decode? (cs : List Char) : Option (List Char) :=
  let numbers := (cs.reverse.takeWhile (· ≠ '-')).reverse
  let ascii := (cs.take (cs.length - numbers.length)).dropLast
  let codes := place numbers.length (ascii.map Char.toNat) 0x80 0 72 true numbers
  codes.bind fun codes =>
    if codes.all fun n => n < 0xD800 || 0xE000 ≤ n then some (codes.map Char.ofNat) else none

end Typescribe.Host.Punycode
