import SellProbe.Bytecode.MinimalProxy
import SellProbe.Contract.Erc20
import SellProbe.Storage.Slot

/-!
# Surveying a contract

Asking a chain for the code of a contract, for the slots that it reads when it is asked for a
balance, and for the values in some of its slots.
-/

namespace SellProbe.Storage

def codeAt (address : Address) : Session Bytes := Program.request (.code address)

def valueAt (address : Address) (slot : Hash) : Session Hash :=
  Program.request (.storage address slot)

/-- The constants of a contract; those of the implementation for a minimal proxy. -/
def scanTarget (address : Address) : Session Bytecode.Scan := do
  let code ← codeAt address
  if code.isEmpty then Program.fail (.scan .emptyCode)
  else match Bytecode.proxyTarget? code with
    | some implementation => return Bytecode.scan (← codeAt implementation)
    | none => return Bytecode.scan code

/-- The storage keys that a transaction has loaded. -/
def usedSlots (transaction : Hash) : Session (List Hash) := do
  let trace ← (Program.request (.trace transaction) : Session ExecutionTrace)
  Program.ofExcept trace.loadedKeys

/-- The transaction in which an account asks for its own balance. -/
def balanceProbeTx (token owner : Address) : Transaction :=
  Contract.transactionOf { account := owner } token Erc20.balanceOfFn [.address owner]

/-- Where a token keeps the balance of an account, found by tracing a reading of it. -/
def discover (owner token : Address) (scan : Bytecode.Scan) : Session Discovery := do
  let receipt ← Contract.send (balanceProbeTx token owner)
  let used ← usedSlots receipt.hash
  return Discovery.ofKeys owner scan.slots used

structure SlotValues where
  /-- The slots that hold something, with what they hold. -/
  values : List (Hash × Hash)
  /-- The addresses among what they hold, each once. -/
  addresses : List Address
deriving DecidableEq

/-- A value that looks like an address: its top twelve bytes are zero and the next one is not. -/
def asAddress? (value : Hash) : Option Address :=
  if (value.toList.take 12).all (· == 0) && value.toList.getD 12 0 != 0 then some value.toAddress
  else none

def SlotValues.add (known : SlotValues) (slot value : Hash) : SlotValues :=
  if value.isZero then known
  else
    { values := known.values ++ [(slot, value)]
      addresses := match asAddress? value with
        | some a => if known.addresses.contains a then known.addresses else known.addresses ++ [a]
        | none => known.addresses }

def readSlotsFrom (address : Address) (known : SlotValues) : List Hash → Session SlotValues
  | [] => return known
  | slot :: slots => do
    let value ← valueAt address slot
    readSlotsFrom address (known.add slot value) slots

def readSlots (address : Address) (slots : List Hash) : Session SlotValues :=
  readSlotsFrom address ⟨[], []⟩ slots

end SellProbe.Storage
