import SellProbe.Contract.Call

/-!
# The exchange

The wrapped native asset, the factory that knows the pairs, and the public router. A route is the
list of tokens that a swap passes through.
-/

namespace SellProbe.Exchange

open Abi (Function)

def depositFn : Function := ⟨"deposit", [], []⟩
def getPairFn : Function := ⟨"getPair", [.address, .address], [.address]⟩
def getAmountsOutFn : Function :=
  ⟨"getAmountsOut", [.uint 256, .array .address], [.array (.uint 256)]⟩
def swapFn : Function :=
  ⟨"swapExactTokensForTokensSupportingFeeOnTransferTokens",
    [.uint 256, .uint 256, .array .address, .address, .uint 256], []⟩
def addLiquidityFn : Function :=
  ⟨"addLiquidityETH", [.address, .uint 256, .uint 256, .uint 256, .address, .uint 256],
    [.uint 256, .uint 256, .uint 256]⟩

def pairCall (factory a b : Address) : Transaction :=
  Contract.callOf factory getPairFn [.address a, .address b]

def quoteCall (router : Address) (amount : Word) (route : List Address) : Transaction :=
  Contract.callOf router getAmountsOutFn [.uint amount, .addresses route]

/-- The transaction that wraps an amount of the native asset, which it sends along. -/
def depositTx (sender : Sender) (wrappedNative : Address) (amount : Word) : Transaction :=
  Contract.transactionOf { sender with value := some amount } wrappedNative depositFn []

/-- The transaction that swaps an amount along a route, whatever comes out of it. -/
def swapTx (sender : Sender) (router : Address) (amount : Word) (route : List Address)
    (recipient : Address) (deadline : Word) : Transaction :=
  Contract.transactionOf sender router swapFn
    [.uint amount, .uint 0, .addresses route, .address recipient, .uint deadline]

def addLiquidityTx (sender : Sender) (router token : Address) (amount : Word)
    (recipient : Address) (deadline : Word) : Transaction :=
  Contract.transactionOf sender router addLiquidityFn
    [.address token, .uint amount, .uint 0, .uint 0, .address recipient, .uint deadline]

def deposit (sender : Sender) (wrappedNative : Address) (amount : Word) : Session Receipt :=
  Contract.send (depositTx sender wrappedNative amount)

/-- The pair of two tokens; the zero address if there is none. -/
def getPair (factory a b : Address) : Session Address :=
  Contract.query Abi.readAddress? (pairCall factory a b)

/-- What the router promises at the end of a route. -/
def quote (router : Address) (amount : Word) (route : List Address) : Session Word := do
  let amounts ← Contract.query Abi.readUints? (quoteCall router amount route)
  match amounts.getLast? with
  | some w => return w
  | none => Program.fail (.abi "getAmountsOut sem retorno")

def swap (sender : Sender) (router : Address) (amount : Word) (route : List Address)
    (recipient : Address) (deadline : Word) : Session Receipt :=
  Contract.send (swapTx sender router amount route recipient deadline)

def addLiquidity (sender : Sender) (router token : Address) (amount : Word)
    (recipient : Address) (deadline : Word) : Session Receipt :=
  Contract.send (addLiquidityTx sender router token amount recipient deadline)

end SellProbe.Exchange
