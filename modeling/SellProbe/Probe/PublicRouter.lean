import SellProbe.Probe.Phase
import SellProbe.Swap.Cost
import SellProbe.Swap.Quoted

/-!
# The probe through the public router

The main wallet wraps native asset, buys the token, approves the router, sells all that it holds and
buys again; then half of the purchase goes to the transit wallet and back. A refused transfer does
not end the probe but is noted in the verdict.
-/

namespace SellProbe.Probe.PublicRouter

variable (box : Sandbox) (profile : Profile) (config : Config) (token : Token)

/-- Swaps an amount of the main wallet along a route, in a stage that reads the clock for it. -/
def trade (stage : Stage) (amount : Word) (route : List Address) : Session Swap.Quoted :=
  Swap.swapWithQuote profile.router box.main amount route config.publicRouter.gas
    (config.deadline (box.clock stage))

def wait : Session Unit := mine config.publicRouter.mineBlocks

/-- Wraps native asset. Gives the quote asset. -/
def prepare : Phase Address := do
  Phase.enter .prepare
  Phase.within .prepare (wait config)
  let quote ← Phase.within .prepare (Erc20.resolve (config.quoteFor profile.wrappedNative))
  let _ ← Phase.within .prepare
    (Exchange.deposit { account := box.main, gas := some config.publicRouter.gas }
      profile.wrappedNative config.wrapAmount)
  return quote.address

/-- Buys the token. Gives the swap, and by how much the main wallet's balance has grown. -/
def buy (route : List Address) : Phase (Swap.Quoted × Word) := do
  Phase.enter .buy
  Phase.within .buy (wait config)
  let before ← Phase.within .buy (Erc20.balanceOf token.address box.main)
  let swap ← Phase.within .buy (trade box profile config .buy config.publicRouter.buyAmount route)
  let after ← Phase.within .buy (Erc20.balanceOf token.address box.main)
  return (swap, Word.subClamped after before)

def approve : Phase Unit := do
  Phase.enter .approve
  let _ ← Phase.within .approve
    (Erc20.approve { account := box.main } token.address profile.router Word.largest)
  let _ ← Phase.within .approve
    (Erc20.approve { account := box.transit } token.address profile.router Word.largest)
  Phase.within .approve (wait config)

def sell (route : List Address) : Phase Swap.Quoted := do
  Phase.enter .sell
  let holding ← Phase.within .sell (Erc20.balanceOf token.address box.main)
  let swap ← Phase.within .sell (trade box profile config .sell holding route)
  Phase.within .sell (wait config)
  return swap

/-- Buys once more. Gives the balance of the main wallet. -/
def secondBuy (route : List Address) : Phase Word := do
  Phase.enter .secondBuy
  let _ ← Phase.within .secondBuy
    (trade box profile config .secondBuy config.publicRouter.buyAmount route)
  let holding ← Phase.within .secondBuy (Erc20.balanceOf token.address box.main)
  Phase.within .secondBuy (wait config)
  return holding

/-- Moves the token between wallets, and tells whether that was refused. A refusal is no error. -/
def isRefused (sender recipient : Address) (amount : Word) : Phase Bool := do
  match ← (Erc20.transfer { account := sender, gas := some config.publicRouter.gas }
      token.address recipient amount).attempt with
  | .ok _ => return false
  | .error _ => return true

def transfer (holding : Word) : Phase Bool := do
  Phase.enter .transfer
  let refused ← isRefused config token box.main box.transit (holding / 2)
  Phase.within .transfer (wait config)
  return refused

def transferBack : Phase (Bool × Word) := do
  Phase.enter .transferBack
  let received ← Phase.within .transferBack (Erc20.balanceOf token.address box.transit)
  let refused ← isRefused config token box.transit box.main received
  let price ← Phase.within .transferBack gasPrice
  return (refused, price)

/-- The verdict after all stages: a refused transfer is noted in it. -/
def verdictOf (bought sold : Swap.Quoted) (gained price : Word) (isRefused : Bool) : Verdict where
  isSellable := true
  buyTax := Swap.tax bought.calculated gained
  sellTax := Swap.tax sold.calculated sold.output
  buyGas := some (Swap.gasCost bought.receipt price)
  sellGas := some (Swap.gasCost sold.receipt price)
  transferError := some isRefused

def probe : Phase Verdict := do
  let quote ← prepare box profile config
  ensureLiquidity box profile config token
  let buyRoute := Swap.buyRoute profile.wrappedNative quote token.address
  let sellRoute := Swap.sellRoute profile.wrappedNative quote token.address
  let (bought, gained) ← buy box profile config token buyRoute
  approve box profile config token
  let sold ← sell box profile config token sellRoute
  let holding ← secondBuy box profile config token buyRoute
  let refused ← transfer box config token holding
  let (refusedBack, price) ← transferBack box config token
  return verdictOf bought sold gained price (refused || refusedBack)

end SellProbe.Probe.PublicRouter
