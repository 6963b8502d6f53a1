import SellProbe.Word

/-!
# Transactions and receipts
-/

namespace SellProbe

/-- A call or a transaction. Without a target it creates a contract. -/
structure Transaction where
  sender : Option Address := none
  target : Option Address := none
  data : Bytes
  value : Option Word := none
  gas : Option Word := none
deriving DecidableEq

/-- An event that a contract has emitted. -/
structure Log where
  emitter : Address
  topics : List Hash
  data : Bytes
deriving DecidableEq

/-- What a transaction that went through has left behind. -/
structure Receipt where
  hash : Hash
  gasUsed : Option Word := none
  /-- The price that was paid for each unit of gas. -/
  gasPrice : Option Word := none
  /-- The contract that the transaction has created. -/
  created : Option Address := none
  logs : List Log := []
deriving DecidableEq

namespace Receipt

def blank : Receipt := { hash := FixedBytes.zero 32 }

end Receipt

end SellProbe
