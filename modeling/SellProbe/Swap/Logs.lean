import SellProbe.Abi.Codec
import SellProbe.Keccak
import SellProbe.Session.Transaction

/-!
# What the logs of a swap say

The amount that a swap has really given, read from the events of its receipt: from the pair's own
event if there is one between the wallet and the router, and else from the last withdrawal of
wrapped native asset. The transit router reports its amounts in two events of its own.
-/

namespace SellProbe.Swap

def topicOf (signature : String) : Hash := keccak256 (Utf8.encode signature)

def pairSwapTopic : Hash := topicOf "Swap(address,uint256,uint256,uint256,uint256,address)"

def withdrawalTopic : Hash := topicOf "Withdrawal(address,uint256)"

/-- The transit router's event for the quoted and the received amount. -/
def transitSwapTopic : Hash :=
  FixedBytes.ofNat 32 0x015fc8ee969fd902d9ebd12a31c54446400a2b512a405366fe14defd6081d220

/-- The transit router's event for its balance before and after. -/
def transitBalanceTopic : Hash :=
  FixedBytes.ofNat 32 0x740f7e210cf19d27b8ab2cec1ebb61687bdc5f38f8bd56f0c8e5d22ed71854db

structure PairSwap where
  sender : Address
  recipient : Address
  amount0In : Word
  amount1In : Word
  amount0Out : Word
  amount1Out : Word
deriving DecidableEq

/-- Reads a pair's swap: its topic, the two parties, and four words of data. -/
def PairSwap.ofLog? (log : Log) : Option PairSwap := do
  let [topic, sender, recipient] := log.topics | none
  if topic = pairSwapTopic then
    return {
      sender := sender.toAddress
      recipient := recipient.toAddress
      amount0In := ← Abi.wordAt? log.data 0
      amount1In := ← Abi.wordAt? log.data 32
      amount0Out := ← Abi.wordAt? log.data 64
      amount1Out := ← Abi.wordAt? log.data 96 }
  else none

/-- Whether an account is one of the two parties. -/
def PairSwap.involves (s : PairSwap) (a : Address) : Bool := s.sender = a || s.recipient = a

/-- What came out: the second token's amount, or the first one's if that is zero. -/
def PairSwap.output (s : PairSwap) : Word := if s.amount1Out = 0 then s.amount0Out else s.amount1Out

structure Withdrawal where
  source : Address
  amount : Word
deriving DecidableEq

def Withdrawal.ofLog? (log : Log) : Option Withdrawal := do
  let [topic, source] := log.topics | none
  if topic = withdrawalTopic then
    return { source := source.toAddress, amount := ← Abi.wordAt? log.data 0 }
  else none

/-- What a swap through the public router has given to a wallet. -/
def output? (logs : List Log) (wallet router : Address) : Option Word :=
  let swaps := logs.filterMap PairSwap.ofLog?
  match swaps.find? fun s => s.involves router && s.involves wallet with
  | some s => some s.output
  | none => (logs.filterMap Withdrawal.ofLog?).getLast?.map (·.amount)

structure TransitReport where
  /-- The amount that the pair has promised. -/
  calculated : Word
  /-- The amount that has arrived. -/
  output : Word
  balanceBefore : Word
  balanceAfter : Word
deriving DecidableEq

def twoWords? (log : Log) : Option (Word × Word) := do
  return (← Abi.wordAt? log.data 0, ← Abi.wordAt? log.data 32)

/-- The first log with a topic, at whichever place among its topics. -/
def logWith? (topic : Hash) (logs : List Log) : Option Log :=
  logs.find? fun log => log.topics.contains topic

def TransitReport.ofLogs? (logs : List Log) : Option TransitReport := do
  let (calculated, output) ← twoWords? (← logWith? transitSwapTopic logs)
  let (balanceBefore, balanceAfter) ← twoWords? (← logWith? transitBalanceTopic logs)
  return { calculated, output, balanceBefore, balanceAfter }

end SellProbe.Swap
