import SellProbe.Contract.Call

/-!
# The transit router

A contract of the probe's own, deployed into the sandbox. It buys and sells in one transaction each,
reports what was quoted and what arrived, and checks that the token can be moved on.
-/

namespace SellProbe.Transit

open Abi (Function)

def buyFn : Function := ⟨"buy", [.array .address, .address], []⟩
def sellFn : Function := ⟨"sell", [.array .address, .address, .uint 256], []⟩
def transferCheckFn : Function := ⟨"transitTransferCheck", [.address, .address], []⟩

/-- The transaction that creates the router: its code, then the two contracts it works with. -/
def deployTx (sender : Sender) (code : Bytes) (factory wrappedNative : Address) : Transaction :=
  { sender := some sender.account
    data := code ++ Abi.encode [.address factory, .address wrappedNative]
    value := sender.value, gas := sender.gas }

def buyTx (sender : Sender) (router : Address) (route : List Address) (pair : Address) :
    Transaction :=
  Contract.transactionOf sender router buyFn [.addresses route, .address pair]

/-- The transaction that sells an amount through a pair. -/
def sellTx (sender : Sender) (router : Address) (route : List Address) (pair : Address)
    (amount : Word) : Transaction :=
  Contract.transactionOf sender router sellFn [.addresses route, .address pair, .uint amount]

/-- The transaction that moves the token to an account and back. -/
def transferCheckTx (sender : Sender) (router token account : Address) : Transaction :=
  Contract.transactionOf sender router transferCheckFn [.address token, .address account]

def deploy (sender : Sender) (code : Bytes) (factory wrappedNative : Address) :
    Session Address := do
  let receipt ← Contract.send (deployTx sender code factory wrappedNative)
  match receipt.created with
  | some a => return a
  | none => Program.fail (.abi "deploy sem endereço de contrato")

def buy (sender : Sender) (router : Address) (route : List Address) (pair : Address) :
    Session Receipt :=
  Contract.send (buyTx sender router route pair)

def sell (sender : Sender) (router : Address) (route : List Address) (pair : Address)
    (amount : Word) : Session Receipt :=
  Contract.send (sellTx sender router route pair amount)

def transferCheck (sender : Sender) (router token account : Address) : Session Receipt :=
  Contract.send (transferCheckTx sender router token account)

end SellProbe.Transit
