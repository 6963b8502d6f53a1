import SellProbe.Contract.Exchange
import SellProbe.Contract.Transit
import SellProbe.Storage.Survey

/-!
# What calls and transactions carry

The calls and transactions of a probe, written out: who sends them, to which contract, for the
function of which signature and with which arguments, with what value and what limit of gas. What
the probe builds is the same (`Erc20.balanceCall_eq` and its likes), so that what a run has done can
be told without the probe's own way to build it.
-/

namespace SellProbe

open Abi (Value)

namespace Contents

/-- The data of a call: four bytes of the hash of a signature, and the arguments. -/
@[irreducible]
def calling (signature : String) (args : List Value) : Bytes :=
  (Bytecode.selector signature).toList ++ Abi.encode args

theorem length_calling (signature : String) (args : List Value) :
    (calling signature args).length = 4 + (32 * args.length + (Abi.bodies args).length) := by
  rw [calling, Abi.encode, List.length_append, List.length_append, Abi.length_heads,
    FixedBytes.length_toList]

/-- The same data asks for one function. -/
theorem selector_eq_of_calling_eq {signature signature' : String} {args args' : List Value}
    (h : calling signature args = calling signature' args') :
    Bytecode.selector signature = Bytecode.selector signature' := by
  rw [calling, calling] at h
  exact FixedBytes.ext (List.append_inj_left h
    ((FixedBytes.length_toList _).trans (FixedBytes.length_toList _).symm))

/-! ## Tokens -/

def decimals (token : Address) : Transaction :=
  { target := some token, data := calling "decimals()" [] }

def symbol (token : Address) : Transaction :=
  { target := some token, data := calling "symbol()" [] }

def name (token : Address) : Transaction :=
  { target := some token, data := calling "name()" [] }

def totalSupply (token : Address) : Transaction :=
  { target := some token, data := calling "totalSupply()" [] }

def balance (token owner : Address) : Transaction :=
  { target := some token, data := calling "balanceOf(address)" [.address owner] }

def allowance (token owner spender : Address) : Transaction :=
  { target := some token
    data := calling "allowance(address,address)" [.address owner, .address spender] }

/-- The owner itself asks for its balance, in a transaction. -/
def balanceProbe (token owner : Address) : Transaction :=
  { balance token owner with sender := some owner }

/-- The owner lets a spender take any amount. -/
def approval (owner token spender : Address) : Transaction :=
  { sender := some owner, target := some token
    data := calling "approve(address,uint256)" [.address spender, .uint (BitVec.allOnes 256)] }

def transfer (owner token recipient : Address) (amount gas : Word) : Transaction :=
  { sender := some owner, target := some token
    data := calling "transfer(address,uint256)" [.address recipient, .uint amount]
    gas := some gas }

/-! ## The exchange -/

def deposit (wallet wrappedNative : Address) (amount gas : Word) : Transaction :=
  { sender := some wallet, target := some wrappedNative, data := calling "deposit()" []
    value := some amount, gas := some gas }

def pair (factory a b : Address) : Transaction :=
  { target := some factory
    data := calling "getPair(address,address)" [.address a, .address b] }

def quote (router : Address) (amount : Word) (route : List Address) : Transaction :=
  { target := some router
    data := calling "getAmountsOut(uint256,address[])" [.uint amount, .addresses route] }

/-- The wallet swaps an amount for itself, and takes whatever comes out. -/
def swap (wallet router : Address) (amount : Word) (route : List Address) (gas deadline : Word) :
    Transaction :=
  { sender := some wallet, target := some router
    data := calling
      ("swapExactTokensForTokensSupportingFeeOnTransferTokens" ++
        "(uint256,uint256,address[],address,uint256)")
      [.uint amount, .uint 0, .addresses route, .address wallet, .uint deadline]
    gas := some gas }

/-- The provider gives an amount of a token, and native asset with it, whatever the price. -/
def liquidity (provider router token : Address) (amount value deadline : Word) : Transaction :=
  { sender := some provider, target := some router
    data := calling "addLiquidityETH(address,uint256,uint256,uint256,address,uint256)"
      [.address token, .uint amount, .uint 0, .uint 0, .address provider, .uint deadline]
    value := some value }

/-! ## The transit router -/

/-- A contract is created: its code, and behind it the two contracts that it works with. -/
def deployment (wallet : Address) (code : Bytes) (factory wrappedNative : Address) (gas : Word) :
    Transaction :=
  { sender := some wallet, target := none
    data := code ++ Abi.encode [.address factory, .address wrappedNative]
    gas := some gas }

def transitPurchase (wallet router : Address) (route : List Address) (pair : Address)
    (value gas : Word) : Transaction :=
  { sender := some wallet, target := some router
    data := calling "buy(address[],address)" [.addresses route, .address pair]
    value := some value, gas := some gas }

def transitSale (wallet router : Address) (route : List Address) (pair : Address)
    (amount gas : Word) : Transaction :=
  { sender := some wallet, target := some router
    data := calling "sell(address[],address,uint256)"
      [.addresses route, .address pair, .uint amount]
    gas := some gas }

def transferCheck (wallet router token account : Address) (gas : Word) : Transaction :=
  { sender := some wallet, target := some router
    data := calling "transitTransferCheck(address,address)" [.address token, .address account]
    gas := some gas }

end Contents

theorem Contract.callOf_eq {f : Abi.Function} {signature : String} (h : f.signature = signature)
    (target : Address) (args : List Value) :
    callOf target f args = { target := some target, data := Contents.calling signature args } := by
  rw [callOf, Abi.Function.callData, Abi.Function.selector, h, Contents.calling]

theorem Contract.transactionOf_eq {f : Abi.Function} {signature : String}
    (h : f.signature = signature) (sender : Sender) (target : Address) (args : List Value) :
    transactionOf sender target f args =
      { sender := some sender.account, target := some target
        data := Contents.calling signature args, value := sender.value, gas := sender.gas } := by
  rw [transactionOf, Abi.Function.callData, Abi.Function.selector, h, Contents.calling]

open Contract (callOf_eq transactionOf_eq)

namespace Erc20

variable (token owner spender : Address)

theorem decimalsCall_eq : decimalsCall token = Contents.decimals token := callOf_eq rfl _ _

theorem symbolCall_eq : symbolCall token = Contents.symbol token := callOf_eq rfl _ _

theorem nameCall_eq : nameCall token = Contents.name token := callOf_eq rfl _ _

theorem totalSupplyCall_eq : totalSupplyCall token = Contents.totalSupply token :=
  callOf_eq rfl _ _

theorem balanceCall_eq : balanceCall token owner = Contents.balance token owner :=
  callOf_eq rfl _ _

theorem allowanceCall_eq :
    allowanceCall token owner spender = Contents.allowance token owner spender :=
  callOf_eq rfl _ _

theorem approveTx_eq : approveTx { account := owner } token spender Word.largest =
    Contents.approval owner token spender :=
  transactionOf_eq rfl _ _ _

theorem transferTx_eq (recipient : Address) (amount gas : Word) :
    transferTx { account := owner, gas := some gas } token recipient amount =
      Contents.transfer owner token recipient amount gas :=
  transactionOf_eq rfl _ _ _

end Erc20

theorem Storage.balanceProbeTx_eq (token owner : Address) :
    balanceProbeTx token owner = Contents.balanceProbe token owner :=
  transactionOf_eq rfl _ _ _

namespace Exchange

variable (wallet router : Address) (amount gas deadline : Word)

theorem depositTx_eq (wrappedNative : Address) :
    depositTx { account := wallet, gas := some gas } wrappedNative amount =
      Contents.deposit wallet wrappedNative amount gas :=
  transactionOf_eq rfl _ _ _

theorem pairCall_eq (factory a b : Address) : pairCall factory a b = Contents.pair factory a b :=
  callOf_eq rfl _ _

theorem quoteCall_eq (route : List Address) :
    quoteCall router amount route = Contents.quote router amount route :=
  callOf_eq rfl _ _

theorem swapTx_eq (route : List Address) :
    swapTx { account := wallet, gas := some gas } router amount route wallet deadline =
      Contents.swap wallet router amount route gas deadline :=
  transactionOf_eq rfl _ _ _

theorem addLiquidityTx_eq (token : Address) (value : Word) :
    addLiquidityTx { account := wallet, value := some value } router token amount wallet deadline =
      Contents.liquidity wallet router token amount value deadline :=
  transactionOf_eq rfl _ _ _

end Exchange

namespace Transit

variable (wallet router pair : Address) (route : List Address) (gas : Word)

theorem deployTx_eq (code : Bytes) (factory wrappedNative : Address) :
    deployTx { account := wallet, gas := some gas } code factory wrappedNative =
      Contents.deployment wallet code factory wrappedNative gas := rfl

theorem buyTx_eq (value : Word) :
    buyTx { account := wallet, value := some value, gas := some gas } router route pair =
      Contents.transitPurchase wallet router route pair value gas :=
  transactionOf_eq rfl _ _ _

theorem sellTx_eq (amount : Word) :
    sellTx { account := wallet, gas := some gas } router route pair amount =
      Contents.transitSale wallet router route pair amount gas :=
  transactionOf_eq rfl _ _ _

theorem transferCheckTx_eq (token account : Address) :
    transferCheckTx { account := wallet, gas := some gas } router token account =
      Contents.transferCheck wallet router token account gas :=
  transactionOf_eq rfl _ _ _

end Transit

end SellProbe
