import SellProbe.Abi.Function
import SellProbe.Session.Program

/-!
# Calling contracts

Two ways to use a function of a contract: a call, which only reads and decodes its result, and a
transaction in the name of an account.
-/

namespace SellProbe

/-- Who sends a transaction, with what value and what limit of gas. -/
structure Sender where
  account : Address
  value : Option Word := none
  gas : Option Word := none
deriving DecidableEq

namespace Contract

/-- The call of a function, in nobody's name. -/
def callOf (target : Address) (f : Abi.Function) (args : List Abi.Value) : Transaction :=
  { target := some target, data := f.callData args }

def transactionOf (sender : Sender) (target : Address) (f : Abi.Function) (args : List Abi.Value) :
    Transaction :=
  { sender := some sender.account, target := some target, data := f.callData args
    value := sender.value, gas := sender.gas }

def call (tx : Transaction) : Session Bytes := Program.request (.call tx)

def send (tx : Transaction) : Session Receipt := Program.request (.send tx)

def query {α : Type} (read : Bytes → Option α) (tx : Transaction) : Session α := do
  let data ← call tx
  match Abi.decode read data with
  | .ok a => return a
  | .error e => Program.fail (.abi e.message)

end Contract

end SellProbe
