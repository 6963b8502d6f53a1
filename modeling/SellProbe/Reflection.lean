import SellProbe.Session.Error

/-!
# Reflection

Some tokens keep balances in an inner unit, of which there are as many per smallest unit as fit into
a word for the whole supply. The rate between the two units follows from the supply.
-/

namespace SellProbe.Reflection

/-- Inner units per smallest unit: the largest multiple of the supply that is a word, divided by the
supply. -/
def rate (supply : Word) : Except ProbeError Word :=
  if supply = 0 then .error (.badInput "supply zero não define taxa de reflexão")
  else
    let total := Word.largest - Word.largest % supply
    .ok (total / supply)

def toInner (amount supply : Word) : Except ProbeError Word := do
  let r ← rate supply
  match Word.mul? amount r with
  | some w => return w
  | none => throw (.badInput (amount.toDecimal ++ " excede o supply"))

/-- An amount of inner units in smallest units, rounded down. -/
def ofInner (inner supply : Word) : Except ProbeError Word := do
  let r ← rate supply
  return inner / r

end SellProbe.Reflection
