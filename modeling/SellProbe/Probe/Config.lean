import SellProbe.Probe.Stage
import SellProbe.Word

/-!
# Settings of a probe
-/

namespace SellProbe

/-- Whether the probe trades through the public router or through a router of its own. -/
inductive Protocol
  | publicRouter
  | transitRouter
deriving DecidableEq

/-- The protocol of a caller who asks for none. -/
def Protocol.standard : Protocol := .publicRouter

/-- The settings that each protocol has a value of its own for. -/
structure Limits where
  /-- Blocks that pass at the start of a stage. -/
  mineBlocks : UInt64
  /-- What one purchase spends. -/
  buyAmount : Word
  gas : Word
deriving DecidableEq

/-- The settings of a probe. Amounts are in smallest units of the native asset. -/
structure Config where
  publicRouter : Limits := { mineBlocks := 500, buyAmount := 1_000_000_000_000, gas := 3000000 }
  transitRouter : Limits :=
    { mineBlocks := 250, buyAmount := 1_000_000_000_000_000_000, gas := 7000000 }
  /-- Native asset that is wrapped before trading. -/
  wrapAmount : Word := 5_000_000_000_000_000_000_000
  /-- Whole tokens that a token without a supply is taken to have. -/
  syntheticSupplyUnits : UInt64 := 500000000
  /-- Native asset that goes into a new pair. -/
  liquidityValue : Word := 100_000_000_000_000_000_000
  /-- Seconds from the reading of the clock to the deadline of a swap. -/
  deadlineSecs : Int64 := 86400
  /-- The creation code of the transit router. -/
  transitRouterCode : Option Bytes := none
  /-- What the token is traded against; without a value, the wrapped native asset. -/
  quoteAsset : Option Address := none
deriving DecidableEq

namespace Config

def quoteFor (c : Config) (wrappedNative : Address) : Address := c.quoteAsset.getD wrappedNative

/-- The supply of a token that reports none, if it is a word. -/
def syntheticSupply? (c : Config) (decimals : UInt8) : Option Word := do
  let unit ← Word.tenPow? decimals.toNat
  Word.mul? (BitVec.ofNat 256 c.syntheticSupplyUnits.toNat) unit

/-- The deadline of a swap, in seconds like the reading of the clock. The sum stays within 64 bits
with a sign, and a deadline before the epoch is zero. -/
def deadline (c : Config) (now : Int64) : Word :=
  let sum := now.toInt + c.deadlineSecs.toInt
  let latest := Int64.maxValue.toInt
  BitVec.ofNat 256 (if sum ≤ latest then sum else latest).toNat

end Config

/-- The accounts of a sandbox, and the clock that is read while it is in use. -/
structure Sandbox where
  /-- The wallet that trades. -/
  main : Address
  /-- The wallet that receives transfers. -/
  transit : Address
  /-- The account that seeds new pairs. -/
  sentinel : Address
  /-- What each stage that asks for the time is told, in seconds since the epoch. A stage asks once
  at most, and nothing is said about how the answers to different stages are related. -/
  clock : Stage → Int64

end SellProbe
