import SellProbe.Contract.Transit
import SellProbe.Probe.Phase
import SellProbe.Swap.Cost
import SellProbe.Swap.Logs

/-!
# The probe through the transit router

The transit wallet deploys a router of the probe's own, and the main wallet buys and sells through
it. Whether the token can be moved on is checked in between, and a failed check ends the probe.
-/

namespace SellProbe.Probe.TransitRouter

variable (box : Sandbox) (profile : Profile) (config : Config) (token : Token)

def wait : Session Unit := mine config.transitRouter.mineBlocks

def sender (account : Address) : Sender := { account, gas := some config.transitRouter.gas }

def reportOf (receipt : Receipt) : Except ProbeError Swap.TransitReport :=
  match Swap.TransitReport.ofLogs? receipt.logs with
  | some report => .ok report
  | none => .error (.abi "roteador de trânsito sem logs de swap")

def routerCode : Except ProbeError Bytes :=
  match config.transitRouterCode with
  | some code => .ok code
  | none => .error (.badInput "bytecode do roteador de trânsito ausente")

def allow (router : Address) (owner token : Address) : Session Unit := do
  let _ ← Erc20.approve { account := owner } token router Word.largest

def prepare : Phase Address := do
  Phase.enter .prepare
  Phase.within .prepare (wait config)
  let code ← Phase.within .prepare (Program.ofExcept (routerCode config))
  Phase.within .prepare
    (Transit.deploy (sender config box.transit) code profile.factory profile.wrappedNative)

/-- Buys the token. Gives the pair, the receipt and the report. -/
def buy (router : Address) : Phase (Address × Receipt × Swap.TransitReport) := do
  Phase.enter .buy
  Phase.within .buy (wait config)
  let pair ← Phase.within .buy
    (Exchange.getPair profile.factory token.address profile.wrappedNative)
  Phase.within .buy (allow router box.main token.address)
  Phase.within .buy (allow router box.main profile.wrappedNative)
  let receipt ← Phase.within .buy
    (Transit.buy { sender config box.main with value := some config.transitRouter.buyAmount }
      router [profile.wrappedNative, token.address] pair)
  let report ← Phase.within .buy (Program.ofExcept (reportOf receipt))
  return (pair, receipt, report)

def transferCheck (router : Address) : Phase Unit := do
  Phase.enter .transferCheck
  Phase.within .transferCheck (wait config)
  Phase.within .transferCheck (allow router box.main token.address)
  Phase.within .transferCheck (allow router box.transit token.address)
  let _ ← Phase.within .transferCheck
    (Transit.transferCheck (sender config box.main) router token.address box.transit)

/-- Sells all that the main wallet holds. Gives the receipt, the report and the price of gas. -/
def sellCheck (router pair : Address) : Phase (Receipt × Swap.TransitReport × Word) := do
  Phase.enter .sellCheck
  Phase.within .sellCheck (wait config)
  let holding ← Phase.within .sellCheck (Erc20.balanceOf token.address box.main)
  let receipt ← Phase.within .sellCheck
    (Transit.sell (sender config box.main) router [token.address, profile.wrappedNative] pair
      holding)
  let report ← Phase.within .sellCheck (Program.ofExcept (reportOf receipt))
  let price ← Phase.within .sellCheck gasPrice
  return (receipt, report, price)

def verdictOf (bought sold : Receipt) (buyReport sellReport : Swap.TransitReport) (price : Word) :
    Verdict where
  isSellable := true
  buyTax := Swap.tax buyReport.calculated buyReport.output
  sellTax := Swap.tax sellReport.calculated sellReport.output
  buyGas := some (Swap.gasCost bought price)
  sellGas := some (Swap.gasCost sold price)

def probe : Phase Verdict := do
  let router ← prepare box profile config
  ensureLiquidity box profile config token
  let (pair, bought, buyReport) ← buy box profile config token router
  transferCheck box config token router
  let (sold, sellReport, price) ← sellCheck box profile config token router pair
  return verdictOf bought sold buyReport sellReport price

end SellProbe.Probe.TransitRouter
