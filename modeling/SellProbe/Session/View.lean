import SellProbe.Json.Wire
import SellProbe.Session.Request

/-!
# Requests and answers in JSON

A request as an object with its name and its parts, and the reading of answers.
-/

namespace SellProbe

def Transaction.view (tx : Transaction) : List (String × Json) :=
  [Json.optional "from" (·.toJson) tx.sender, Json.optional "to" (·.toJson) tx.target,
   Json.always "data" (.bytes tx.data), Json.optional "value" Json.word tx.value,
   Json.optional "gas" Json.word tx.gas].filterMap id

def Request.view : Request → List (String × Json)
  | .call tx => ("op", .text "call") :: tx.view
  | .send tx => ("op", .text "send") :: tx.view
  | .code a => [("op", .text "get_code"), ("address", a.toJson)]
  | .storage a slot =>
    [("op", .text "get_storage_at"), ("address", a.toJson), ("slot", slot.toJson)]
  | .balance a => [("op", .text "get_balance"), ("address", a.toJson)]
  | .gasPrice => [("op", .text "gas_price")]
  | .mine blocks => [("op", .text "mine"), ("blocks", .nat blocks.toNat)]
  | .setStorage a slot value =>
    [("op", .text "set_storage"), ("address", a.toJson), ("slot", slot.toJson),
     ("value", .word value)]
  | .unlock a => [("op", .text "unlock_account"), ("address", a.toJson)]
  | .lock a => [("op", .text "lock_account"), ("address", a.toJson)]
  | .trace h => [("op", .text "trace_transaction"), ("hash", h.toJson)]
  | .createSandbox network => [("op", .text "create_sandbox"), ("network", .text network)]
  | .destroy => [("op", .text "destroy")]

def Request.entry (n : Nat) (r : Request) : List (String × Json) := ("n", .nat n) :: r.view

/-- Reads a log. One that names no contract comes from the zero address. -/
def Log.ofView? (j : Json) : Option Log := do
  return {
    emitter := (← Json.part? Json.address? j "address").getD (FixedBytes.zero 20)
    topics := ← Json.list? Json.hash? (← j.member "topics")
    data := ← Json.bytes? (← j.member "data") }

def Receipt.ofView? (j : Json) : Option Receipt := do
  return {
    hash := (← Json.part? Json.hash? j "tx_hash").getD (FixedBytes.zero 32)
    gasUsed := ← Json.part? Json.word? j "gas_used"
    gasPrice := ← Json.part? Json.word? j "gas_price"
    created := ← Json.part? Json.address? j "contract"
    logs := (← Json.part? (Json.list? Log.ofView?) j "logs").getD [] }

def Request.readable {α : Type} : Option α → Except ProbeError α
  | some a => .ok a
  | none => .error (.rpc "unreadable answer")

def Request.readAnswer : (r : Request) → Json → Except ProbeError r.Answer
  | .call _, j => readable j.bytes?
  | .send _, j => readable (Receipt.ofView? j)
  | .code _, j => readable j.bytes?
  | .storage _ _, j => readable j.hash?
  | .balance _, j => readable j.word?
  | .gasPrice, j => readable j.word?
  | .trace _, j => (ExecutionTrace.ofJson j).mapError fun m => .trace m.message
  | .mine _, _ | .setStorage _ _ _, _ | .unlock _, _ | .lock _, _ | .createSandbox _, _
  | .destroy, _ => .ok ()

end SellProbe
