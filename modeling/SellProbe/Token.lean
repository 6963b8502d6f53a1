import SellProbe.Json.Record

/-!
# Tokens

The identity of a token under test, and its record.
-/

namespace SellProbe

structure Token where
  address : Address
  symbol : String
  name : Option String
  /-- Places between the smallest unit and a whole token. -/
  decimals : UInt8
deriving DecidableEq

namespace Token

/-- The symbol, and the address in brackets. -/
def display (t : Token) : String := t.symbol ++ " (" ++ t.address.toHex ++ ")"

def toJson (t : Token) : Json :=
  .recordOf [
    Json.always "address" t.address.toJson,
    Json.always "symbol" (.text t.symbol),
    Json.optional "name" .text t.name,
    Json.always "decimal" (.nat t.decimals.toNat)]

def ofJson? (j : Json) : Option Token := do
  let [address, symbol, name, decimals] ←
    j.fields? ["address", "symbol", "name", "decimal"] | none
  return {
    address := ← Json.required? Address.ofJson? address
    symbol := ← Json.required? Json.text? symbol
    name := ← Json.nullable? Json.text? name
    decimals := ← Json.required? Json.uint8? decimals }

end Token

end SellProbe
