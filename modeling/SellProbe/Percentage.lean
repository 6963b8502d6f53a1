import SellProbe.Amount

/-!
# Percentages

`part / whole` in percent, to a number of decimal places. As long as the scaled part is a word the
quotient is rounded exactly, a half upwards, and only the result is turned into a float; beyond that
the quotient of two floats is rounded.
-/

namespace SellProbe

/-- The quotient rounded to the nearest whole number, a half upwards; none when an intermediate
value is no word. -/
def roundedShare? (part whole scale : Word) : Option Word := do
  let scaled ← Word.mul? part scale
  let shifted ← Word.add? scaled (whole / 2)
  return shifted / whole

/-- The percentage when `scale` is `100 * 10 ^ decimals`. -/
def percentageAt (part whole scale : Word) (decimals : Nat) : Float :=
  match roundedShare? part whole scale with
  | some q => q.toFloat / tenPower decimals
  | none => roundTo (part.toFloat / whole.toFloat * 100) decimals

def percentScale? (decimals : Nat) : Option Word := do
  Word.mul? (← Word.tenPow? decimals) 100

/-- The percentage of a non-zero whole. There is none when the scale is no word. -/
def percentage? (part whole : Word) (decimals : Nat) : Option (Option Float) :=
  if whole = 0 then some none
  else (percentScale? decimals).map fun scale => some (percentageAt part whole scale decimals)

/-- The percentage to `decimals` places, with a scale that is known to be a word. -/
def shareOf (part whole scale : Word) (decimals : Nat) : Option Float :=
  if whole = 0 then none else some (percentageAt part whole scale decimals)

theorem percentage?_of_scale {decimals : Nat} {scale : Word}
    (h : percentScale? decimals = some scale) (part whole : Word) :
    percentage? part whole decimals = some (shareOf part whole scale decimals) := by
  unfold percentage? shareOf
  split
  · rfl
  · rw [h]; rfl

end SellProbe
