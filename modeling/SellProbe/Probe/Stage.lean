/-!
# Stages

The stages of a probe in the order in which it can pass through them.
-/

namespace SellProbe

inductive Stage
  | prepare
  | bootstrap
  | buy
  | approve
  | sell
  | secondBuy
  | transfer
  | transferBack
  | transferCheck
  | sellCheck
deriving DecidableEq

namespace Stage

def all : List Stage :=
  [prepare, bootstrap, buy, approve, sell, secondBuy, transfer, transferBack, transferCheck,
   sellCheck]

def index : Stage → Nat
  | prepare => 0
  | bootstrap => 1
  | buy => 2
  | approve => 3
  | sell => 4
  | secondBuy => 5
  | transfer => 6
  | transferBack => 7
  | transferCheck => 8
  | sellCheck => 9

/-- The name that a failed verdict gives. -/
def name : Stage → String
  | prepare => "Prepare"
  | bootstrap => "Bootstrap"
  | buy => "Buy"
  | approve => "Approve"
  | sell => "Sell"
  | secondBuy => "Second Buy"
  | transfer => "Transfer"
  | transferBack => "TransferBack"
  | transferCheck => "TransferCheck"
  | sellCheck => "SellCheck"

end Stage

end SellProbe
