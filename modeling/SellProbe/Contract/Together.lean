import SellProbe.Contract.Call

/-!
# Calls that run together

Calls none of which waits for another. They go out in order, and are then polled until all replies
have been seen: a poll goes through the calls in their order, and the first failing reply that it
sees ends them all. When a reply is seen is up to the other side. It is told by a function `seen`,
which gives the poll that sees the reply to the call at a place; the calls go out in poll zero.
-/

namespace SellProbe.Contract

variable {α β : Type}

/-- Whether the reply at a place is seen before that at another place. -/
def seenBefore (seen : Nat → Nat) (i j : Nat) : Bool :=
  seen i < seen j || seen i == seen j && i ≤ j

/-- The replies, from the one that is seen first to the one that is seen last. -/
def inOrderSeen (seen : Nat → Nat) (replies : List β) : List β :=
  (replies.zipIdx.mergeSort fun x y => seenBefore seen x.2 y.2).map Prod.fst

/-- Sends out calls, of which the first stands at a place. A failing reply that is seen at once ends
this, and the calls behind it do not go out. -/
def issue (read : Bytes → Option α) (seen : Nat → Nat) :
    Nat → List Transaction → Session (List (Outcome ProbeError α))
  | _, [] => return []
  | place, tx :: txs => do
    let reply ← (query read tx).settle
    if !reply.isValue && seen place == 0 then return [reply]
    else
      let replies ← issue read seen (place + 1) txs
      return reply :: replies

/-- The decoded results of calls that run together, in the order of the calls. -/
def queryAll (read : Bytes → Option α) (seen : Nat → Nat) (txs : List Transaction) :
    Session (List α) := do
  let replies ← issue read seen 0 txs
  let _ ← (inOrderSeen seen replies).mapM Program.done
  replies.mapM Program.done

end SellProbe.Contract
