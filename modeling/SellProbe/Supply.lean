import SellProbe.Percentage
import SellProbe.Json.Binary64

/-!
# Supply summaries

How much of a token exists, how much of it is burned, and how much circulates.
-/

namespace SellProbe

structure Supply where
  total : Word
  burned : Word
  circulating : Word
  /-- Percent burned, one place. -/
  burnedRate : Float

namespace Supply

/-- The summary of a total and what the burn wallets hold; more than the total counts as all. -/
def summarize (total held : Word) : Supply :=
  let burned := if held ≤ total then held else total
  { total, burned
    circulating := total - burned
    burnedRate := (shareOf burned total 1000 1).getD 0 }

def toJson (s : Supply) : Json :=
  .record [
    ("totalSupply", s.total.toJson),
    ("burnedSupply", s.burned.toJson),
    ("circulatingSupply", s.circulating.toJson),
    ("burnedRate", .float s.burnedRate)]

/-- Reads the record of a summary; its parts are taken as they stand. -/
def ofJson? (j : Json) : Option Supply := do
  let [total, burned, circulating, rate] ← j.fields?
    ["totalSupply", "burnedSupply", "circulatingSupply", "burnedRate"] | none
  return {
    total := ← Json.required? Word.ofJson? total
    burned := ← Json.required? Word.ofJson? burned
    circulating := ← Json.required? Word.ofJson? circulating
    burnedRate := ← Json.required? Json.float? rate }

end Supply

end SellProbe
