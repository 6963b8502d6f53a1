import SellProbe.Contract.Call
import SellProbe.Token

/-!
# Token contracts

The functions of a token, and the reading of its identity. A token chooses its own symbol and name,
so a failure to read either is no error.
-/

namespace SellProbe.Erc20

open Abi (Function)

def balanceOfFn : Function := ⟨"balanceOf", [.address], [.uint 256]⟩
def totalSupplyFn : Function := ⟨"totalSupply", [], [.uint 256]⟩
def decimalsFn : Function := ⟨"decimals", [], [.uint 8]⟩
def symbolFn : Function := ⟨"symbol", [], [.string]⟩
def nameFn : Function := ⟨"name", [], [.string]⟩
def allowanceFn : Function := ⟨"allowance", [.address, .address], [.uint 256]⟩
def approveFn : Function := ⟨"approve", [.address, .uint 256], [.bool]⟩
def transferFn : Function := ⟨"transfer", [.address, .uint 256], [.bool]⟩

def balanceCall (token owner : Address) : Transaction :=
  Contract.callOf token balanceOfFn [.address owner]

def totalSupplyCall (token : Address) : Transaction := Contract.callOf token totalSupplyFn []

def decimalsCall (token : Address) : Transaction := Contract.callOf token decimalsFn []

def allowanceCall (token owner spender : Address) : Transaction :=
  Contract.callOf token allowanceFn [.address owner, .address spender]

def symbolCall (token : Address) : Transaction := Contract.callOf token symbolFn []

def nameCall (token : Address) : Transaction := Contract.callOf token nameFn []

def approveTx (sender : Sender) (token spender : Address) (amount : Word) : Transaction :=
  Contract.transactionOf sender token approveFn [.address spender, .uint amount]

def transferTx (sender : Sender) (token recipient : Address) (amount : Word) : Transaction :=
  Contract.transactionOf sender token transferFn [.address recipient, .uint amount]

def balanceOf (token owner : Address) : Session Word :=
  Contract.query Abi.readUint? (balanceCall token owner)

def totalSupply (token : Address) : Session Word :=
  Contract.query Abi.readUint? (totalSupplyCall token)

/-- The places of an answer; the whole word has to be below 256. -/
def placesOfWord (w : Word) : Except ProbeError UInt8 :=
  if w.toNat < 256 then .ok w.toNat.toUInt8
  else .error (.abi ("decimals fora do intervalo: " ++ w.toDecimal))

/-- The places between the smallest unit and a whole token. -/
def decimals (token : Address) : Session UInt8 := do
  let w ← Contract.query Abi.readUint? (decimalsCall token)
  Program.ofExcept (placesOfWord w)

def allowance (token owner spender : Address) : Session Word :=
  Contract.query Abi.readUint? (allowanceCall token owner spender)

def approve (sender : Sender) (token spender : Address) (amount : Word) : Session Receipt :=
  Contract.send (approveTx sender token spender amount)

def transfer (sender : Sender) (token recipient : Address) (amount : Word) : Session Receipt :=
  Contract.send (transferTx sender token recipient amount)

/-- The text that a call answers with, or nothing if it fails or makes no sense. -/
def textOf (tx : Transaction) : Session (Option String) := do
  match ← (Contract.call tx).attempt with
  | .ok data => return Abi.decodeText? data
  | .error _ => return none

def resolve (token : Address) : Session Token := do
  let decimals ← decimals token
  let symbol ← textOf (symbolCall token)
  let name ← textOf (nameCall token)
  return { address := token, symbol := symbol.getD "", name, decimals }

end SellProbe.Erc20
