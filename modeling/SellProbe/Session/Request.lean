import SellProbe.Session.Trace
import SellProbe.Session.Transaction

/-!
# Requests

Everything that the probe can ask of a chain or of its sandbox, and the kind of answer each request
has. A reply is an answer, an error, or a panic of the other side.
-/

namespace SellProbe

/-- How something ends: with a value, with an error, or in a panic, whose text tells the cause. -/
inductive Outcome (ε α : Type)
  | value (a : α)
  | error (e : ε)
  | panic (text : String)

def Outcome.isValue {ε α : Type} : Outcome ε α → Bool
  | .value _ => true
  | .error _ => false
  | .panic _ => false

/-- A request to the chain, to the sandbox, or to the maker of sandboxes. -/
inductive Request
  /-- A call that changes nothing. -/
  | call (tx : Transaction)
  /-- A transaction, answered when it has been mined. -/
  | send (tx : Transaction)
  | code (address : Address)
  | storage (address : Address) (slot : Hash)
  | balance (address : Address)
  | gasPrice
  /-- Advance by a number of blocks. -/
  | mine (blocks : UInt64)
  | setStorage (address : Address) (slot : Hash) (value : Word)
  /-- Allow transactions in the name of an account. -/
  | unlock (address : Address)
  | lock (address : Address)
  | trace (transaction : Hash)
  /-- A fresh sandbox at the tip of a network. -/
  | createSandbox (network : String)
  | destroy
deriving DecidableEq

def Request.Answer : Request → Type
  | call _ => Bytes
  | send _ => Receipt
  | code _ => Bytes
  | storage _ _ => Hash
  | balance _ => Word
  | gasPrice => Word
  | trace _ => ExecutionTrace
  | mine _ | setStorage _ _ _ | unlock _ | lock _ | createSandbox _ | destroy => Unit

abbrev Reply (r : Request) := Outcome ProbeError r.Answer

end SellProbe
