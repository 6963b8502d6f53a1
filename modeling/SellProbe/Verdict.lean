import SellProbe.Json.Binary64

/-!
# Verdicts

The outcome of a probe: whether the token can be sold, at what tax and gas cost, or at which stage
the probe failed and why.
-/

namespace SellProbe

/-- What a probe found out. A failed probe fills in `isSellable`, `failedStage` and `errorMessage`
only. -/
structure Verdict where
  isSellable : Bool
  /-- Percent lost on buying, three places; negative when more came out than was quoted. -/
  buyTax : Option Float := none
  sellTax : Option Float := none
  /-- Gas cost in whole units of the native asset. -/
  buyGas : Option Float := none
  sellGas : Option Float := none
  /-- Whether a transfer between two wallets was refused. -/
  transferError : Option Bool := none
  failedStage : Option String := none
  errorMessage : Option String := none

namespace Verdict

def failed (stage message : String) : Verdict :=
  { isSellable := false, failedStage := some stage, errorMessage := some message }

def toJson (v : Verdict) : Json :=
  .recordOf [
    Json.always "isSellable" (.bool v.isSellable),
    Json.optional "buyTax" Json.float v.buyTax,
    Json.optional "sellTax" Json.float v.sellTax,
    Json.optional "buyGas" Json.float v.buyGas,
    Json.optional "sellGas" Json.float v.sellGas,
    Json.optional "transferError" .bool v.transferError,
    Json.optional "failedState" .text v.failedStage,
    Json.optional "errorMessage" .text v.errorMessage]

def ofJson? (j : Json) : Option Verdict := do
  let [sellable, buyTax, sellTax, buyGas, sellGas, transfer, stage, message] ← j.fields?
    ["isSellable", "buyTax", "sellTax", "buyGas", "sellGas", "transferError", "failedState",
     "errorMessage"] | none
  return {
    isSellable := ← Json.required? Json.bool? sellable
    buyTax := ← Json.nullable? Json.float? buyTax
    sellTax := ← Json.nullable? Json.float? sellTax
    buyGas := ← Json.nullable? Json.float? buyGas
    sellGas := ← Json.nullable? Json.float? sellGas
    transferError := ← Json.nullable? Json.bool? transfer
    failedStage := ← Json.nullable? Json.text? stage
    errorMessage := ← Json.nullable? Json.text? message }

end Verdict

end SellProbe
