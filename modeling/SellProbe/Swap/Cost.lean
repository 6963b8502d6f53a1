import SellProbe.Percentage
import SellProbe.Session.Transaction

/-!
# What a swap costs

The tax, as the gap between the amount quoted and the amount received, the price of the gas, and the
routes that buying and selling take.
-/

namespace SellProbe.Swap

/-- The gap between quote and output in percent of the quote, three places; negative when more came
out than was quoted, and none for a quote of zero. -/
def tax (calculated output : Word) : Option Float :=
  if output ≤ calculated then shareOf (calculated - output) calculated 100000 3
  else (shareOf (output - calculated) calculated 100000 3).map (-·)

/-- The cost of the gas in whole units of the native asset, five places. A receipt without a price
of its own counts at the current one. -/
def gasCost (receipt : Receipt) (currentPrice : Word) : Float :=
  unitsOf (Word.mulClamped (receipt.gasUsed.getD 0) (receipt.gasPrice.getD currentPrice)) 18 5

/-- The route from the native asset to the token, through the quote asset if that is another one. -/
def buyRoute (native quote token : Address) : List Address :=
  if quote = native then [quote, token] else [native, quote, token]

def sellRoute (native quote token : Address) : List Address :=
  if quote = native then [token, quote] else [token, quote, native]

end SellProbe.Swap
