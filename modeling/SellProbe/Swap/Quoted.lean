import SellProbe.Contract.Erc20
import SellProbe.Contract.Exchange
import SellProbe.Swap.Logs

/-!
# A swap with a quote

One swap through the public router: allowances for the tokens on the route, a quote, the swap
itself, and what it has given.
-/

namespace SellProbe.Swap

structure Quoted where
  /-- What the router promised before the swap. -/
  calculated : Word
  /-- What the logs say has come out. -/
  output : Word
  receipt : Receipt

/-- Approves a spender for every token that has no allowance yet. -/
def ensureAllowance (owner spender : Address) : List Address → Session Unit
  | [] => return ()
  | token :: tokens => do
    let allowed ← Erc20.allowance token owner spender
    if allowed = 0 then
      let _ ← Erc20.approve { account := owner } token spender Word.largest
    ensureAllowance owner spender tokens

/-- Swaps an amount along a route, from a wallet to itself. -/
def swapWithQuote (router wallet : Address) (amount : Word) (route : List Address)
    (gas deadline : Word) : Session Quoted := do
  ensureAllowance wallet router route
  let calculated ← Exchange.quote router amount route
  let receipt ← Exchange.swap { account := wallet, gas := some gas } router amount route wallet
    deadline
  match output? receipt.logs wallet router with
  | some output => return { calculated, output, receipt }
  | none => Program.fail (.abi "swap sem log de saída")

end SellProbe.Swap
