import Typescribe.Text.Hex
import Typescribe.Text.PrintableTable
import Typescribe.Text.Ranges

/-!
This module contains the display of a text in quotes, as messages show it.
-/

namespace Typescribe.Text

def isPrintable (c : Char) : Bool :=
  inRanges printableRanges c.toNat

def displayChar (quote c : Char) : List Char :=
  let n := c.toNat
  if c = quote || c = '\\' then ['\\', c]
  else if c = '\n' then ['\\', 'n']
  else if c = '\r' then ['\\', 'r']
  else if c = '\t' then ['\\', 't']
  else if isPrintable c then [c]
  else if n < 0x100 then '\\' :: 'x' :: hex 2 n
  else if n < 0x10000 then '\\' :: 'u' :: hex 4 n
  else '\\' :: 'U' :: hex 8 n

/--
The text in single quotes, or in double quotes if it holds a single quote and no double one, with
unprintable characters escaped.
-/
def display (cs : List Char) : List Char :=
  let quote := if cs.contains '\'' && !cs.contains '"' then '"' else '\''
  quote :: cs.flatMap (displayChar quote) ++ [quote]

end Typescribe.Text
