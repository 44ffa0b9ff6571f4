import Typescribe.Step

/-!
This module contains the requests for resources of a server, and what answers them.
-/

namespace Typescribe.Rest

structure Request where
  url : String
  rawPath : String
  accept : String
  authorization : Option String
deriving DecidableEq, Repr

/-- A reply; its body is a text. -/
structure Reply where
  status : Nat
  body : String
deriving DecidableEq, Repr

def Reply.isSuccess (reply : Reply) : Bool :=
  200 ≤ reply.status && reply.status < 300

/-- What answers requests; it works on a state of its own. -/
abbrev Transport (σ : Type) := Request → Step σ Reply

def unconnected {σ : Type} : Transport σ :=
  fun _ => Step.failWith (.transport "ConnectError")

end Typescribe.Rest
