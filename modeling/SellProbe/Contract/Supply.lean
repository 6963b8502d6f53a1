import SellProbe.Contract.Erc20
import SellProbe.Contract.Together
import SellProbe.Network.Profile
import SellProbe.Supply

/-!
# The supply of a token on its chain
-/

namespace SellProbe.Supply

/-- The balances of some wallets, read together. -/
def balances (seen : Nat → Nat) (token : Address) (wallets : List Address) :
    Session (List Word) :=
  Contract.queryAll Abi.readUint? seen (wallets.map (Erc20.balanceCall token))

/-- The summary of a token: its supply, and what the burn wallets of the network hold of it. A
wallet that is listed twice counts twice. The balances are read together, and `seen` tells when the
reply about each is seen. -/
def ofChain (seen : Nat → Nat) (profile : Profile) (token : Address) : Session Supply := do
  let total ← Erc20.totalSupply token
  let held ← balances seen token profile.burnAddresses
  return summarize total (held.foldl Word.addClamped 0)

end SellProbe.Supply
