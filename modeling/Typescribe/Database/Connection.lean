import Typescribe.Text.Split
import Typescribe.Value.Probe

/-!
This module contains the options with which a database is opened.
-/

namespace Typescribe.Database

/-- A time in seconds, as a whole number or as a double. -/
inductive Seconds where
  | whole (n : Int)
  | double (x : Float)
deriving Repr

def Seconds.isZero : Seconds → Bool
  | whole n => n = 0
  | double x => x == 0.0

def Seconds.truncated : Seconds → Except Cause Int
  | whole n => .ok n
  | double x => Value.wholePart x

structure ConnectionOptions where
  url : String
  checksLiveness : Bool := true
  timeout : Option Int := none
deriving DecidableEq, Repr

/-- The options for a database. A time limit only reaches servers that know it. -/
def ConnectionOptions.of (url : String) (timeout : Option Seconds) :
    Except Cause ConnectionOptions :=
  match timeout with
  | some seconds =>
    if !seconds.isZero && Text.startsWith "postgresql".toList url.toList then do
      return { url, timeout := some (← seconds.truncated) }
    else .ok { url }
  | none => .ok { url }

end Typescribe.Database
