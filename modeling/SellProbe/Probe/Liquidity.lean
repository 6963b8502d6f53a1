import SellProbe.Contract.Exchange
import SellProbe.Network.Profile
import SellProbe.Probe.Config
import SellProbe.Reflection
import SellProbe.Storage.Survey

/-!
# Liquidity for a token without a pair

A token that nobody trades yet gets a pair of its own in the sandbox. The sentinel is given half of
the supply by a direct write to its balance slot, and puts a quarter of the supply and some native
asset into a new pair.
-/

namespace SellProbe.Liquidity

/-- Whether a token needs a pair: it has none, or it reports no supply. -/
def isMissing (pair : Address) (supply : Word) : Bool := pair.isZero || supply = 0

structure Report where
  discovery : Storage.Discovery
  /-- The supply reckoned with. -/
  totalSupply : Word
  /-- Whether that supply is made up, since the token reports none. -/
  isSynthetic : Bool
  /-- What was written to the sentinel's balance slot. -/
  seeded : Word
  pair : Address

def unlock (account : Address) : Session Unit := Program.request (.unlock account)

def setStorage (address : Address) (slot : Hash) (value : Word) : Session Unit :=
  Program.request (.setStorage address slot value)

def slotOf (discovery : Storage.Discovery) : Except ProbeError Hash :=
  match discovery.balanceSlot? with
  | some slot => .ok slot
  | none => .error (.liquidity "slot de saldos não encontrado")

/-- The supply to reckon with. -/
def supplyOf (config : Config) (token : Token) (reported : Word) : Session Word :=
  if reported = 0 then
    Program.orPanic "arithmetic operation overflow" (config.syntheticSupply? token.decimals)
  else return reported

/-- The balance to write for an amount: in inner units if the token is a reflection token. -/
def seedOf (discovery : Storage.Discovery) (amount supply : Word) : Except ProbeError Word :=
  if discovery.isReflection then Reflection.toInner amount supply else .ok amount

/-- Makes a pair for a token. The sentinel stays unlocked until the session ends. -/
def provide (box : Sandbox) (profile : Profile) (config : Config) (token : Token) :
    Session Report := do
  unlock box.sentinel
  let scan ← Storage.scanTarget token.address
  let discovery ← Storage.discover box.sentinel token.address scan
  let slot ← Program.ofExcept (slotOf discovery)
  let reported ← Erc20.totalSupply token.address
  let totalSupply ← supplyOf config token reported
  let seeded ← Program.ofExcept (seedOf discovery (totalSupply / 2) totalSupply)
  setStorage token.address slot seeded
  let _ ← Erc20.approve { account := box.sentinel } token.address profile.router Word.largest
  let _ ← Exchange.addLiquidity
    { account := box.sentinel, value := some config.liquidityValue } profile.router token.address
    (totalSupply / 4) box.sentinel (config.deadline (box.clock .bootstrap))
  let pair ← Exchange.getPair profile.factory token.address profile.wrappedNative
  if pair.isZero then Program.fail (.liquidity "par não criado após addLiquidityETH")
  else return { discovery, totalSupply, isSynthetic := reported = 0, seeded, pair }

end SellProbe.Liquidity
