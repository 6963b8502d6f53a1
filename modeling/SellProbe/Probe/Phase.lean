import SellProbe.Probe.Failure
import SellProbe.Probe.Liquidity

/-!
# Phases

A phase is a part of a probe. It tells which stage it goes into, and whose failure an error is: each
step of a phase names the stage that it belongs to.
-/

namespace SellProbe

abbrev Phase := Program Failure

namespace Phase

def enter (stage : Stage) : Phase Unit := Program.enter stage (return ())

/-- A step that belongs to a stage: an error in it is a failure of that stage. -/
def within {α : Type} (stage : Stage) (work : Session α) : Phase α :=
  work.mapError (Failure.ofError stage)

end Phase

namespace Probe

def mine (blocks : UInt64) : Session Unit := Program.request (.mine blocks)

def gasPrice : Session Word := Program.request .gasPrice

/-- Makes a pair for the token, if it needs one. Whether it does is found out while the stage is
still that of the preparation. -/
def ensureLiquidity (box : Sandbox) (profile : Profile) (config : Config) (token : Token) :
    Phase Unit := do
  let pair ← Phase.within .prepare
    (Exchange.getPair profile.factory token.address profile.wrappedNative)
  let supply ← Phase.within .prepare (Erc20.totalSupply token.address)
  if Liquidity.isMissing pair supply then
    Phase.enter .bootstrap
    let _ ← Phase.within .bootstrap (Liquidity.provide box profile config token)

end Probe

end SellProbe
