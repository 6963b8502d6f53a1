import SellProbe.Directory
import SellProbe.Json.Record

/-!
# Network profiles

The fixed facts about one chain: where its exchange contracts are, and which wallets count as burnt.
-/

namespace SellProbe

/-- The burn wallet that also acts for the sandbox. -/
def sentinelAddress : Address := FixedBytes.ofNat 20 0xdead

structure Profile where
  name : String
  chainId : UInt64
  rpc : String
  /-- The native asset as a token. -/
  wrappedNative : Address
  router : Address
  factory : Address
  burnAddresses : List Address
  /-- Liquidity lockers by name. -/
  lockers : Directory Address

namespace Profile

/-- The burn wallets of a chain that names none: the sentinel, and the addresses 0 to 7. -/
def usualBurnAddresses : List Address :=
  sentinelAddress :: (List.range 8).map (FixedBytes.ofNat 20)

def toJson (p : Profile) : Json :=
  .record [
    ("name", .text p.name),
    ("chainId", .nat p.chainId.toNat),
    ("rpc", .text p.rpc),
    ("wrappedNative", p.wrappedNative.toJson),
    ("router", p.router.toJson),
    ("factory", p.factory.toJson),
    ("burnAddresses", .array (p.burnAddresses.map (·.toJson))),
    ("lockers", .record (p.lockers.entries.map fun (n, a) => (n, a.toJson)))]

def ofJson? (j : Json) : Option Profile := do
  let [name, chainId, rpc, wrappedNative, router, factory, burnAddresses, lockers] ← j.fields?
    ["name", "chainId", "rpc", "wrappedNative", "router", "factory", "burnAddresses", "lockers"]
    | none
  return {
    name := ← Json.required? Json.text? name
    chainId := ← Json.required? Json.uint64? chainId
    rpc := ← Json.required? Json.text? rpc
    wrappedNative := ← Json.required? Address.ofJson? wrappedNative
    router := ← Json.required? Address.ofJson? router
    factory := ← Json.required? Address.ofJson? factory
    burnAddresses :=
      ← Json.withDefault? usualBurnAddresses (Json.list? Address.ofJson?) burnAddresses
    lockers := Directory.ofList (← Json.withDefault? [] (Json.members? Address.ofJson?) lockers) }

end Profile

end SellProbe
